import CommandShell.Bytes

/-!
# Formatted output

Texts and numbers are written in a way that a directive asks for: in a field of some width, filled
up on the left or on the right, with a sign or a mark of the base in front, and with a number of
digits. Numbers with a fraction are binary numbers of a limited precision; their decimal digits are
computed exactly and rounded to the nearest, with ties going to the even digit.
-/

namespace CommandShell.Text

/-- How something is to be written. -/
structure Format where
  /-- It stands at the left of its field. -/
  left : Bool
  /-- A number that is not negative has a sign. -/
  plus : Bool
  /-- A number that is not negative has a blank in the place of a sign. -/
  blank : Bool
  /-- The base is marked. -/
  marked : Bool
  /-- The field is filled up with zeros. -/
  zeros : Bool
  /-- The width of the field at least. -/
  width : Nat
  /-- The number of digits or of bytes. -/
  precision : Option Nat

namespace Format

/-- To be written as it is. -/
def plain : Format := ⟨false, false, false, false, false, 0, none⟩

/-- Adds a flag. -/
def flag (f : Format) (b : UInt8) : Format :=
  match b with
  | 0x2D => { f with left := true }
  | 0x2B => { f with plus := true }
  | 0x20 => { f with blank := true }
  | 0x23 => { f with marked := true }
  | 0x30 => { f with zeros := true }
  | _ => f

/-- Sets the width; a negative one asks for the left side as well. -/
def setWidth (f : Format) (n : Int) : Format :=
  if n < 0 then { f with left := true, width := n.natAbs } else { f with width := n.toNat }

/-- Sets the precision; a negative one is none. -/
def setPrecision (f : Format) (n : Int) : Format :=
  { f with precision := if n < 0 then none else some n.toNat }

/-- Fills up a field. -/
def pad (f : Format) (bytes : Bytes) : Bytes :=
  let fill := List.replicate (f.width - bytes.length) (0x20 : UInt8)
  if f.left then bytes ++ fill else fill ++ bytes

/-- Fills up a field of a number, between what stands in front and the digits if it is with
zeros. -/
def padNumber (f : Format) (zeros : Bool) (front digits : Bytes) : Bytes :=
  if zeros ∧ !f.left then
    front ++ List.replicate (f.width - front.length - digits.length) (0x30 : UInt8) ++ digits
  else f.pad (front ++ digits)

/-- A text. -/
def text (f : Format) (bytes : Bytes) : Bytes :=
  f.pad <| match f.precision with
    | some n => bytes.take n
    | none => bytes

/-- The digits of a number in a base. -/
def digits (base : Nat) (upper : Bool) (n : Nat) : Bytes :=
  (Nat.toDigits base n).map fun c => (if upper then c.toUpper else c).toUInt8

/-- What stands in front of the digits of a number. -/
def sign (f : Format) (negative : Bool) : Bytes :=
  if negative then [0x2D] else if f.plus then [0x2B] else if f.blank then [0x20] else []

/-- Digits with zeros in front, as many as the precision asks for. -/
def extend (f : Format) (digits : Bytes) : Bytes :=
  let digits := if f.precision = some 0 ∧ digits = [0x30] then [] else digits
  List.replicate ((f.precision.getD 0) - digits.length) (0x30 : UInt8) ++ digits

/-- A whole number with a sign. -/
def signed (f : Format) (n : Int) : Bytes :=
  f.padNumber (f.zeros && f.precision.isNone) (f.sign (n < 0)) (f.extend (digits 10 false n.natAbs))

/-- A whole number without a sign, in a base. -/
def unsigned (f : Format) (base : Nat) (upper : Bool) (n : Nat) : Bytes :=
  let shown := f.extend (digits base upper n)
  let shown := if f.marked ∧ base = 8 ∧ shown.head? ≠ some 0x30 then 0x30 :: shown else shown
  let front := if f.marked ∧ base = 16 ∧ n ≠ 0 then utf8 (if upper then "0X" else "0x") else []
  f.padNumber (f.zeros && f.precision.isNone) front shown

/-! ### Numbers with a fraction -/

/-- A number with a fraction: a sign and a whole number of powers of two, or what is no number. -/
inductive Real where
  /-- The number `mantissa * 2 ^ exponent`. -/
  | finite (negative : Bool) (mantissa : Nat) (exponent : Int)
  /-- A number that is too great. -/
  | infinite (negative : Bool)
  /-- No number. -/
  | none (negative : Bool)

/-- A quotient rounded to the nearest whole number, ties to the even one. -/
def roundedQuotient (a b : Nat) : Nat :=
  let q := a / b
  let r := a % b
  if 2 * r < b then q else if b < 2 * r then q + 1 else if q % 2 = 0 then q else q + 1

/-- A kind of binary numbers. -/
structure Precision where
  /-- The number of their digits. -/
  bits : Nat
  /-- The power of two that they are below. -/
  above : Int
  /-- The power of two that they are multiples of. -/
  unit : Int

/-- Numbers in 32 bits. -/
def Precision.single : Precision := ⟨24, 128, -149⟩

/-- Numbers in 64 bits. -/
def Precision.double : Precision := ⟨53, 1024, -1074⟩

/-- Numbers in 80 bits. -/
def Precision.extended : Precision := ⟨64, 16384, -16445⟩

/-- The number of a kind that is nearest to a quotient, and whether the quotient is out of the range
of the kind: too great, or so small that digits are lost. -/
def Real.nearest (p : Precision) (negative : Bool) (a b : Nat) : Real × Bool :=
  if a = 0 then (.finite negative 0 0, false)
  else
    let shift : Int := (Nat.log2 a : Int) - Nat.log2 b - p.bits
    let quotient := fun (shift : Int) =>
      if shift < 0 then (a * Nat.pow 2 shift.natAbs, b) else (a, b * Nat.pow 2 shift.natAbs)
    let rounded := fun (shift : Int) => roundedQuotient (quotient shift).1 (quotient shift).2
    let shift := if Nat.pow 2 p.bits ≤ rounded shift then shift + 1 else shift
    if shift < p.unit then
      let (x, y) := quotient p.unit
      (.finite negative (rounded p.unit) p.unit, x % y ≠ 0)
    else
      let m := rounded shift
      if p.above ≤ (Nat.log2 m : Int) + shift then (.infinite negative, true)
      else (.finite negative m shift, false)

/-- The digits at the front of bytes. -/
def Real.digitsOf (bytes : Bytes) : Bytes :=
  bytes.takeWhile fun b => 0x30 ≤ b && b ≤ 0x39

/-- The number that digits spell. -/
def Real.count (digits : Bytes) : Nat :=
  digits.foldl (fun n b => n * 10 + (b.toNat - 0x30)) 0

/-- The digits in base sixteen at the front of bytes. -/
def Real.hexDigitsOf (bytes : Bytes) : Bytes :=
  bytes.takeWhile fun b =>
    (0x30 ≤ b && b ≤ 0x39) || (0x41 ≤ b && b ≤ 0x46) || (0x61 ≤ b && b ≤ 0x66)

/-- The number that digits in base sixteen spell. -/
def Real.hexCount (digits : Bytes) : Nat :=
  digits.foldl (fun n b => n * 16 + (if b ≤ 0x39 then b.toNat - 0x30 else b.toNat % 32 + 9)) 0

/-- The power that follows a number after a letter, and the rest. -/
def Real.power (letter : UInt8) (bytes : Bytes) : Int × Bytes :=
  match bytes with
  | b :: rest =>
    if b = letter ∨ b + 0x20 = letter then
      let (negative, after) := match rest with
        | 0x2D :: after => (true, after)
        | 0x2B :: after => (false, after)
        | _ => (false, rest)
      let ds := digitsOf after
      if ds = [] then (0, bytes)
      else (if negative then -(count ds : Int) else count ds, after.drop ds.length)
    else (0, bytes)
  | [] => (0, [])

/-- The digits of a number before and after its point, and what follows. -/
def Real.parts (digitsOf : Bytes → Bytes) (body : Bytes) : Bytes × Bytes × Bytes :=
  let front := digitsOf body
  match body.drop front.length with
  | 0x2E :: more =>
    let back := digitsOf more
    if front = [] ∧ back = [] then ([], [], body) else (front, back, more.drop back.length)
  | rest => (front, [], rest)

/-- The number of a kind that is nearest to a whole number of powers of a base. Powers that are
beyond all numbers are as good as one that just is. -/
def Real.scaledBy (p : Precision) (negative : Bool) (n : Nat) (base : Nat) (power : Int) :
    Real × Bool :=
  let farthest : Int := 40000 + Nat.log2 (n + 1)
  let power := max (-farthest) (min farthest power)
  nearest p negative (n * Nat.pow base power.toNat) (Nat.pow base (-power).toNat)

/-- The number of a kind that a text begins with, whether it is out of range, and the rest of the
text. If it begins with no number, the rest is all of it. -/
def Real.read (p : Precision) (text : Bytes) : (Real × Bool) × Bytes :=
  let body := text.dropWhile fun b => b = 0x20 || (0x09 ≤ b && b ≤ 0x0D)
  let (negative, body) := match body with
    | 0x2D :: rest => (true, rest)
    | 0x2B :: rest => (false, rest)
    | _ => (false, body)
  let lower := (body.take 8).map fun b => if 0x41 ≤ b ∧ b ≤ 0x5A then b + 0x20 else b
  if (utf8 "infinity").isPrefixOf lower then ((.infinite negative, false), body.drop 8)
  else if (utf8 "inf").isPrefixOf lower then ((.infinite negative, false), body.drop 3)
  else if (utf8 "nan").isPrefixOf lower then ((.none negative, false), body.drop 3)
  else
    let (front, back, rest) := parts hexDigitsOf (body.drop 2)
    if (utf8 "0x").isPrefixOf lower ∧ front ++ back ≠ [] then
      let (power, rest) := Real.power 0x70 rest
      (scaledBy p negative (hexCount (front ++ back)) 2 (power - 4 * back.length), rest)
    else
      let (front, back, rest) := parts digitsOf body
      if front = [] ∧ back = [] then ((.finite false 0 0, false), text)
      else
        let (power, rest) := Real.power 0x65 rest
        (scaledBy p negative (count (front ++ back)) 10 (power - back.length), rest)

/-- The number of a kind that bits stand for: a sign, an exponent, and the digits, of which the
first is left out unless it is said that it is there. -/
def Real.ofBits (p : Precision) (leads : Bool) (bits : Nat) : Real :=
  let stored := if leads then p.bits else p.bits - 1
  let mantissa := bits % Nat.pow 2 stored
  let range := (2 * p.above).toNat
  let exponent := bits / Nat.pow 2 stored % range
  let negative := bits / Nat.pow 2 stored / range % 2 = 1
  let first := Nat.pow 2 (p.bits - 1)
  if exponent + 1 = range then
    if mantissa % first = 0 then .infinite negative else .none negative
  else if exponent = 0 then .finite negative mantissa p.unit
  else
    .finite negative (if leads then mantissa else first + mantissa)
      (p.unit + (exponent : Int) - 1)

/-- Whether two numbers are the same. -/
def Real.isSame : Real → Real → Bool
  | .finite s m e, .finite t n f =>
    let low := min e f
    s = t && m * Nat.pow 2 (e - low).toNat = n * Nat.pow 2 (f - low).toNat
  | .infinite s, .infinite t => s = t
  | _, _ => false

/-- The number of digits after the point, multiplied out: the number times a power of ten, rounded
to a whole number. -/
def scaled (mantissa : Nat) (exponent : Int) (places : Int) : Nat :=
  let a := mantissa * Nat.pow 10 places.toNat * Nat.pow 2 exponent.toNat
  let b := Nat.pow 10 (-places).toNat * Nat.pow 2 (-exponent).toNat
  roundedQuotient a b

/-- The digits of a number before and after the point. -/
def fixedDigits (f : Format) (places mantissa : Nat) (exponent : Int) : Bytes :=
  let all := digits 10 false (scaled mantissa exponent places)
  let all := List.replicate (places + 1 - all.length) (0x30 : UInt8) ++ all
  let front := all.take (all.length - places)
  let back := all.drop (all.length - places)
  front ++ (if places = 0 ∧ !f.marked then [] else [0x2E]) ++ back

/-- The power of ten of the first digit of a number that is written with so many digits. -/
def magnitude (mantissa : Nat) (exponent : Int) (count : Nat) : Int :=
  if mantissa = 0 then 0
  else
    let guess : Int := ((Nat.log2 mantissa : Int) + exponent) * 30103 / 100000
    let candidates := [guess + 2, guess + 1, guess, guess - 1, guess - 2]
    (candidates.find? fun e =>
      Nat.pow 10 (count - 1) ≤ scaled mantissa exponent ((count : Int) - 1 - e)).getD guess

/-- The digits of a number with one before the point, and the power of ten. -/
def scientificDigits (f : Format) (places mantissa : Nat) (exponent : Int) (upper : Bool) : Bytes :=
  let e := magnitude mantissa exponent (places + 1)
  let all := digits 10 false (scaled mantissa exponent (places - e))
  let all := all ++ List.replicate (places + 1 - all.length) (0x30 : UInt8)
  let power := digits 10 false e.natAbs
  all.take 1 ++ (if places = 0 ∧ !f.marked then [] else [0x2E]) ++ (all.drop 1).take places ++
    [if upper then 0x45 else 0x65, if e < 0 then 0x2D else 0x2B] ++
    (if power.length < 2 then 0x30 :: power else power)

/-- Digits without zeros at the end of a fraction. -/
def trimFraction (bytes : Bytes) : Bytes :=
  if bytes.contains 0x2E then
    let trimmed := (bytes.reverse.dropWhile (· = 0x30)).reverse
    if trimmed.getLast? = some 0x2E then trimmed.dropLast else trimmed
  else bytes

/-- The digits of a number, with or without a power of ten, whichever is shorter. -/
def generalDigits (f : Format) (precision mantissa : Nat) (exponent : Int) (upper : Bool) : Bytes :=
  let count := max precision 1
  let e := magnitude mantissa exponent count
  if e < -4 ∨ (count : Int) ≤ e then
    let shown := scientificDigits f (count - 1) mantissa exponent upper
    if f.marked then shown
    else
      let letter : UInt8 := if upper then 0x45 else 0x65
      let front := shown.takeWhile (· ≠ letter)
      trimFraction front ++ shown.drop front.length
  else
    let shown := fixedDigits f ((count : Int) - 1 - e).toNat mantissa exponent
    if f.marked then shown else trimFraction shown

/-- The digits in base sixteen of a number of a kind, and the power of two. In front of the point
stand as many binary digits as leave a whole number of digits behind it. -/
def hexadecimalDigits (f : Format) (p : Precision) (mantissa : Nat) (exponent : Int)
    (upper : Bool) :
    Bytes :=
  let places := (p.bits - 1) / 4
  let spread := min ((p.bits : Int) - 1 - Nat.log2 mantissa) (exponent - p.unit)
  let mantissa' := mantissa * Nat.pow 2 spread.toNat
  let power : Int := if mantissa = 0 then 0 else exponent - spread + 4 * places
  let kept := min (f.precision.getD places) places
  let rounded := roundedQuotient mantissa' (Nat.pow 16 (places - kept))
  let (front, power) := if rounded / Nat.pow 16 kept = 16 then (1, power + 4)
    else (rounded / Nat.pow 16 kept, power)
  let back := digits 16 upper (rounded % Nat.pow 16 kept)
  let back := List.replicate (kept - back.length) (0x30 : UInt8) ++ back
  let back := match f.precision with
    | some n => back.take kept ++ List.replicate (n - kept) (0x30 : UInt8)
    | none => (back.reverse.dropWhile (· = 0x30)).reverse
  let back := if f.precision = some 0 then [] else back
  digits 16 upper front ++ (if back = [] ∧ !f.marked then [] else 0x2E :: back) ++
    [if upper then 0x50 else 0x70, if power < 0 then 0x2D else 0x2B] ++ digits 10 false power.natAbs

/-- A number of a kind with a fraction, as a letter asks for. -/
def real (f : Format) (p : Precision) (letter : UInt8) (r : Real) : Bytes :=
  let upper := letter < 0x61
  let cased := fun (s : String) => utf8 (if upper then s.map Char.toUpper else s)
  match r with
  | .infinite negative => f.padNumber false (f.sign negative) (cased "inf")
  | .none negative => f.padNumber false (f.sign negative) (cased "nan")
  | .finite negative mantissa exponent =>
    let precision := f.precision.getD 6
    let lower := if upper then letter + 0x20 else letter
    let front := f.sign negative ++ if lower = 0x61 then utf8 (if upper then "0X" else "0x") else []
    let shown := match lower with
      | 0x61 => hexadecimalDigits f p mantissa exponent upper
      | 0x66 => fixedDigits f precision mantissa exponent
      | 0x65 => scientificDigits f precision mantissa exponent upper
      | _ => generalDigits f precision mantissa exponent upper
    f.padNumber f.zeros front shown

/-- A number of a kind with as few digits as it needs to be read again, though not fewer than a
least number of them. -/
def shortest (p : Precision) (r : Real) (least : Nat) : Bytes :=
  go (p.bits / 3 + 2) least
where
  /-- The same from a number of digits on. -/
  go : Nat → Nat → Bytes
    | 0, count => with_ count
    | fuel + 1, count =>
      let text := with_ count
      if Real.isSame (Real.read p text).1.1 r then text else go fuel (count + 1)
  /-- The number with so many digits. -/
  with_ (count : Nat) : Bytes :=
    real { plain with precision := some count } p 0x67 r

end Format

/-- The byte that an escape stands for, after its backslash, and what follows. Numbers in base eight
have at most three digits. -/
def escapeOf (text : Bytes) : Option (UInt8 × Bytes) :=
  match text with
  | 0x5C :: rest => some (0x5C, rest)
  | 0x61 :: rest => some (0x07, rest)
  | 0x62 :: rest => some (0x08, rest)
  | 0x65 :: rest => some (0x1B, rest)
  | 0x66 :: rest => some (0x0C, rest)
  | 0x6E :: rest => some (0x0A, rest)
  | 0x72 :: rest => some (0x0D, rest)
  | 0x74 :: rest => some (0x09, rest)
  | 0x76 :: rest => some (0x0B, rest)
  | _ =>
    let digits := (text.take 3).takeWhile fun b => 0x30 ≤ b && b ≤ 0x37
    if digits = [] then none
    else some (UInt8.ofNat (digits.foldl (fun n b => n * 8 + (b.toNat - 0x30)) 0 % 256),
      text.drop digits.length)

end CommandShell.Text
