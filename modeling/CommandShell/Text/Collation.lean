import CommandShell.Text.Regex

/-!
# Orders on texts

Texts are put in order by their bytes, or by what stands at their beginning: a number, a number with
a unit, the name of a month, or a version. Leading blanks do not count where something is read.
Texts that begin with nothing of the kind come first.
-/

namespace CommandShell.Text.Collation

/-- Whether a byte is a blank. -/
def isBlank (b : UInt8) : Bool :=
  b = 0x20 || b = 0x09 || b = 0x0A

/-- Whether a byte is a digit. -/
def isDigit (b : UInt8) : Bool :=
  0x30 ≤ b && b ≤ 0x39

/-- Whether a byte is a letter. -/
def isLetter (b : UInt8) : Bool :=
  let l := Regex.lower b
  0x61 ≤ l && l ≤ 0x7A

/-- The number that digits spell. -/
def count (digits : Bytes) : Nat :=
  digits.foldl (fun n b => n * 10 + (b.toNat - 0x30)) 0

/-- The order of two texts by their bytes; the beginning of a text comes before it. -/
def bytes (a b : Bytes) : Ordering :=
  compare a b

/-! ### Numbers -/

/-- The number at the beginning of a text. -/
structure Numeral where
  /-- It has a minus sign. -/
  negative : Bool
  /-- Its digits in front of the point. -/
  whole : Bytes
  /-- Its digits behind the point. -/
  fraction : Bytes
  /-- What follows it. -/
  rest : Bytes

/-- Reads a number. -/
def Numeral.ofText (text : Bytes) : Numeral :=
  let body := text.dropWhile isBlank
  let negative := body.head? = some 0x2D
  let body := if negative then body.tail else body
  let whole := body.takeWhile isDigit
  match body.drop whole.length with
  | 0x2E :: after =>
    let fraction := after.takeWhile isDigit
    ⟨negative, whole, fraction, after.drop fraction.length⟩
  | after => ⟨negative, whole, [], after⟩

/-- The number as a multiple of a power of ten that is small enough. -/
def Numeral.scaled (n : Numeral) (places : Nat) : Int :=
  let size := count (n.whole ++ n.fraction) * Nat.pow 10 (places - n.fraction.length)
  if n.negative then -(size : Int) else size

/-- The order of two numbers. -/
def Numeral.order (m n : Numeral) : Ordering :=
  let places := max m.fraction.length n.fraction.length
  compare (m.scaled places) (n.scaled places)

/-- The order by numbers. -/
def numeric (a b : Bytes) : Ordering :=
  (Numeral.ofText a).order (.ofText b)

/-- The power of a unit that follows a number; zero has none. -/
def Numeral.power (n : Numeral) : Int :=
  if (n.whole ++ n.fraction).any (· ≠ 0x30) then
    let letters := utf8 "KMGTPEZYRQ"
    let found := match n.rest with
      | b :: _ => if b = 0x6B then 1 else (letters.findIdx? (· = b)).elim 0 (· + 1)
      | [] => 0
    if n.negative then -(found : Int) else found
  else 0

/-- The order by numbers with units: the unit counts first. -/
def human (a b : Bytes) : Ordering :=
  let m := Numeral.ofText a
  let n := Numeral.ofText b
  (compare m.power n.power).then (m.order n)

/-! ### Numbers with an exponent -/

/-- A number with an exponent at the beginning of a text. -/
inductive Real where
  /-- There is none. -/
  | none
  /-- What is no number. -/
  | undefined
  /-- A number beyond all others. -/
  | infinite (negative : Bool)
  /-- A number times a power of ten. -/
  | finite (factor exponent : Int)

/-- The greatest exponent that is taken as it is. -/
def Real.exponentLimit : Int := 4932

/-- Reads the exponent that may follow a number. -/
def exponentOf (text : Bytes) : Int :=
  match text with
  | b :: rest =>
    if b = 0x65 ∨ b = 0x45 then
      let (negative, body) := match rest with
        | 0x2D :: more => (true, more)
        | 0x2B :: more => (false, more)
        | _ => (false, rest)
      let n : Int := count (body.takeWhile isDigit)
      if negative then -n else n
    else 0
  | [] => 0

/-- The greatest power of two that a number is multiplied by. -/
def Real.binaryLimit : Int := 16384

/-- Reads a number of base sixteen behind its mark, perhaps with a fraction and a power of two. -/
def Real.ofHex? (negative : Bool) (text : Bytes) : Option Real :=
  let isHex := fun b => (hexDigit? b).isSome
  let whole := text.takeWhile isHex
  let (fraction, rest) := match text.drop whole.length with
    | 0x2E :: more =>
      let digits := more.takeWhile isHex
      (digits, more.drop digits.length)
    | more => ([], more)
  if whole = [] ∧ fraction = [] then none
  else
    let size := (whole ++ fraction).foldl (fun n b => n * 16 + (hexDigit? b).getD 0) 0
    let power : Int := match rest with
      | b :: more => if Regex.lower b = 0x70 then exponentOf (0x65 :: more) else 0
      | [] => 0
    let power := power - 4 * fraction.length
    let signed : Int := if negative then -size else size
    if size = 0 ∨ power < -2 * binaryLimit then some (.finite 0 0)
    else if binaryLimit < power then some (.infinite negative)
    else if 0 ≤ power then some (.finite (signed * Nat.pow 2 power.toNat) 0)
    else some (.finite (signed * Nat.pow 5 (-power).toNat) power)

/-- Reads a number with an exponent. -/
def Real.ofText (text : Bytes) : Real :=
  let body := text.dropWhile fun b => isBlank b || (0x0B ≤ b && b ≤ 0x0D)
  let (negative, body) := match body with
    | 0x2D :: rest => (true, rest)
    | 0x2B :: rest => (false, rest)
    | _ => (false, body)
  let word := (body.take 3).map Regex.lower
  let hex := if word.take 2 = utf8 "0x" then Real.ofHex? negative (body.drop 2) else Option.none
  if let some r := hex then r
  else if word = utf8 "inf" then .infinite negative
  else if word = utf8 "nan" then .undefined
  else
    let n := Numeral.ofText body
    if n.whole = [] ∧ n.fraction = [] ∨ n.negative ∨ (body.head?.elim false isBlank) then .none
    else
      let exponent := exponentOf n.rest - n.fraction.length
      let size : Int := count (n.whole ++ n.fraction)
      let top := exponent + (n.whole ++ n.fraction).length
      if size = 0 ∨ top < -2 * exponentLimit then .finite 0 0
      else if exponentLimit < top then .infinite negative
      else .finite (if negative then -size else size) exponent

/-- The place of a kind of number in the order. -/
def Real.rank : Real → Nat
  | none => 0
  | undefined => 1
  | infinite true => 2
  | finite _ _ => 3
  | infinite false => 4

/-- The order by numbers with an exponent. -/
def general (a b : Bytes) : Ordering :=
  match Real.ofText a, Real.ofText b with
  | .finite m d, .finite n e =>
    let least := min d e
    compare (m * Nat.pow 10 (d - least).toNat) (n * Nat.pow 10 (e - least).toNat)
  | x, y => compare x.rank y.rank

/-! ### Months -/

/-- The short names of the months. -/
def months : List String :=
  ["jan", "feb", "mar", "apr", "may", "jun", "jul", "aug", "sep", "oct", "nov", "dec"]

/-- The number of the month whose name is at the beginning of a text. -/
def monthOf (text : Bytes) : Nat :=
  let word := ((text.dropWhile isBlank).take 3).map Regex.lower
  (months.findIdx? fun m => utf8 m = word).elim 0 (· + 1)

/-- The order by months. -/
def month (a b : Bytes) : Ordering :=
  compare (monthOf a) (monthOf b)

/-! ### Versions -/

/-- The place of a byte of a version in the order; the end of the version stands for itself. -/
def versionRank : Bytes → Int
  | [] => -1
  | b :: _ =>
    if isDigit b then 0
    else if isLetter b then b.toNat
    else if b = 0x7E then -2
    else b.toNat + 256

/-- Whether a text begins with something else than a digit. -/
def startsOther : Bytes → Bool
  | [] => false
  | b :: _ => !isDigit b

/-- The order of two versions: runs of digits are compared as numbers, other bytes by their
ranks. -/
def parts : Nat → Bytes → Bytes → Ordering
  | 0, _, _ => .eq
  | fuel + 1, a, b =>
    if a = [] ∧ b = [] then .eq
    else if startsOther a ∨ startsOther b then
      (compare (versionRank a) (versionRank b)).then (parts fuel a.tail b.tail)
    else
      let m := a.takeWhile isDigit
      let n := b.takeWhile isDigit
      (compare (count m) (count n)).then (parts fuel (a.drop m.length) (b.drop n.length))

/-- Whether a text is a row of endings: a point, a letter and letters and digits. -/
def isEnding : Nat → Bytes → Bool
  | 0, _ => false
  | _, [] => true
  | fuel + 1, 0x2E :: b :: rest =>
    (isLetter b || b = 0x7E) &&
      isEnding fuel (rest.dropWhile fun x => isLetter x || isDigit x || x = 0x7E)
  | _, _ => false

/-- A text without the row of endings at its end; at least a byte is left. -/
def withoutEnding : Bytes → Bytes
  | [] => []
  | b :: rest => if isEnding (rest.length + 1) rest then [b] else b :: withoutEnding rest

/-- The place of names that begin with a point. -/
def pointRank (text : Bytes) : Nat :=
  match text with
  | [] => 0
  | [0x2E] => 1
  | [0x2E, 0x2E] => 2
  | 0x2E :: _ => 3
  | _ => 4

/-- The order by versions. Endings of names count only if that is all that differs. -/
def version (a b : Bytes) : Ordering :=
  let fuel := a.length + b.length + 1
  let ranks := compare (pointRank a) (pointRank b)
  ranks.then ((parts fuel (withoutEnding a) (withoutEnding b)).then (parts fuel a b))

end CommandShell.Text.Collation
