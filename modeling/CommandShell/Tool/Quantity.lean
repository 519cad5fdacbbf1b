import CommandShell.Text.Format
import CommandShell.Tool.Column
import CommandShell.Tool.Input
import CommandShell.Tool.Number
import CommandShell.Tool.Words

/-!
# Numbers with letters for great units

Fields of lines are read as numbers, which may have a letter for a power of 1000 or of 1024 behind
them, and are written in other units: with such a letter in turn, rounded in a direction that can be
chosen, in a field of some width. The numbers in between are binary ones of a limited precision.
-/

namespace CommandShell.Tool

open Work

namespace Quantity

/-! ### Binary numbers -/

/-- A binary number of limited precision. -/
structure Value where
  /-- Whether it is below zero. -/
  negative : Bool
  /-- A whole number. -/
  mantissa : Nat
  /-- The power of two that it is multiplied with. -/
  exponent : Int

namespace Value

/-- The number that is nearest to a quotient. -/
def ofQuotient (negative : Bool) (a b : Nat) : Value :=
  match (Text.Format.Real.nearest .extended negative a b).1 with
  | .finite negative mantissa exponent => ⟨negative, mantissa, exponent⟩
  | _ => ⟨negative, Nat.pow 2 64, 16320⟩

/-- A whole number. -/
def ofNat (n : Nat) : Value := ofQuotient false n 1

/-- The number without its sign as a quotient. -/
def quotient (v : Value) : Nat × Nat :=
  (v.mantissa * Nat.pow 2 v.exponent.toNat, Nat.pow 2 (-v.exponent).toNat)

/-- A product. -/
def times (v : Value) (n : Nat) : Value :=
  let (a, b) := v.quotient
  ofQuotient v.negative (a * n) b

/-- A number that is divided by a whole one. -/
def dividedBy (v : Value) (n : Nat) : Value :=
  let (a, b) := v.quotient
  ofQuotient v.negative a (b * n)

/-- The number farther from zero by another one. -/
def extend (v w : Value) : Value :=
  let (a, b) := v.quotient
  let (c, d) := w.quotient
  ofQuotient v.negative (a * d + c * b) (b * d)

/-- Whether the number without its sign is less than a whole number. -/
def isBelow (v : Value) (n : Nat) : Bool :=
  let (a, b) := v.quotient
  a < n * b

/-- The number as it is written with so many digits after its point. -/
def shown (v : Value) (f : Text.Format) (places : Nat) : Bytes :=
  (f.setPrecision places).real .extended 0x66 (.finite v.negative v.mantissa v.exponent)

/-- The number as it is written in a complaint. -/
def brief (v : Value) : Bytes :=
  Text.Format.plain.real .extended 0x67 (.finite v.negative v.mantissa v.exponent)

end Value

/-! ### Rounding and scaling -/

/-- The whole number that takes the place of one with a fraction. -/
inductive Direction where
  | up | down | fromZero | towardsZero | nearest
deriving DecidableEq

/-- A number rounded to a whole one. -/
def Direction.round (d : Direction) (v : Value) : Value :=
  let (a, b) := v.quotient
  let low := a / b
  let high := (a + b - 1) / b
  let n := match d with
    | .fromZero => high
    | .towardsZero => low
    | .nearest => (2 * a + b) / (2 * b)
    | .up => if v.negative then low else high
    | .down => if v.negative then high else low
  { Value.ofNat n with negative := v.negative && n ≠ 0 }

/-- A number rounded to so many digits after its point. -/
def Direction.roundTo (d : Direction) (places : Nat) (v : Value) : Value :=
  (d.round (v.times (Nat.pow 10 places))).dividedBy (Nat.pow 10 places)

/-- What the letters for units mean. -/
inductive Letters where
  /-- There are none. -/
  | none
  /-- Powers of 1024 if a small `i` follows, or else of 1000. -/
  | either
  /-- Powers of 1000. -/
  | thousands
  /-- Powers of 1024. -/
  | binary
  /-- Powers of 1024; a small `i` follows. -/
  | marked
deriving DecidableEq

/-- What one letter means a power of. -/
def Letters.base : Letters → Nat
  | .binary => 1024
  | .marked => 1024
  | _ => 1000

/-- The letters in their order. -/
def units : Bytes := utf8 "KMGTPEZY"

/-- The number of times that a number can be divided until it is less than the divisor, and what is
left. -/
def reduce (base : Nat) : Nat → Value → Nat × Value
  | 0, v => (0, v)
  | fuel + 1, v =>
    if v.isBelow base then (0, v)
    else
      let (power, rest) := reduce base fuel (v.dividedBy base)
      (power + 1, rest)

/-! ### How numbers are read and written -/

/-- What is done about texts that are no numbers. -/
inductive Tolerance where
  | abort | fail | warn | ignore
deriving DecidableEq

/-- What is wrong with a text. -/
inductive Defect where
  | tooLarge | noNumber | forbidden | badUnit | unmarked
  /-- Something follows the number. -/
  | followed (rest : Bytes)

/-- What is said of a text with a defect. -/
def Defect.message (text : Bytes) : Defect → Bytes
  | tooLarge => utf8 "value too large to be converted: " ++ Quote.plain text
  | noNumber => utf8 "invalid number: " ++ Quote.plain text
  | forbidden =>
    utf8 "rejecting suffix in input: " ++ Quote.plain text ++ utf8 " (consider using --from)"
  | badUnit => utf8 "invalid suffix in input: " ++ Quote.plain text
  | unmarked =>
    utf8 "missing 'i' suffix in input: " ++ Quote.plain text ++ utf8 " (e.g Ki/Mi/Gi)"
  | followed rest =>
    utf8 "invalid suffix in input " ++ Quote.plain text ++ utf8 ": " ++ Quote.plain rest

/-- The value of digits, in the order in which they are read. -/
def valueOf (digits : Bytes) : Except Defect Value :=
  if 27 < (digits.dropWhile (· = 0x30)).length then .error .tooLarge
  else .ok (digits.foldl (fun v d =>
    (v.times 10).extend (.ofNat (d.toNat - 0x30))) (.ofNat 0))

/-- A number and the number of digits after its point. -/
def readNumber (from_ : Letters) (text : Bytes) : Except Defect (Value × Nat) := do
  let (negative, body) := match text with
    | 0x2D :: rest => (true, rest)
    | _ => (false, text)
  let front := body.takeWhile Amount.isDigit
  let rest := body.drop front.length
  if front = [] ∧ rest.head? ≠ some 0x2E then throw .noNumber
  let whole ← valueOf front
  let (value, places, rest) ← match rest with
    | 0x2E :: more => do
      let back := more.takeWhile Amount.isDigit
      let after := more.drop back.length
      if back = [] ∧ after.head? ≠ some 0x2E then throw .noNumber
      let fraction ← valueOf back
      pure (whole.extend (fraction.dividedBy (Nat.pow 10 back.length)), back.length, after)
    | _ => pure (whole, 0, rest)
  let value := { value with negative := negative }
  if rest = [] then
    if from_ = .marked then throw .unmarked
    return (value, places)
  let rest := rest.dropWhile fun b => b = 0x20 || b = 0x09
  match units.findIdx? (· = rest.headD 0) with
  | none => throw .badUnit
  | some power =>
    if from_ = .none then throw .forbidden
    let rest := rest.tail
    let marked := rest.head? = some 0x69
    if from_ = .marked ∧ !marked then throw .unmarked
    let base := if from_ = .either ∧ marked then 1024 else from_.base
    let rest := if marked ∧ (from_ = .either ∨ from_ = .marked) then rest.tail else rest
    if rest ≠ [] then throw (.followed rest)
    return (value.times (Nat.pow base (power + 1)), 0)

/-- What is around the place of a number. -/
structure Frame where
  /-- What stands in front. -/
  front : Bytes
  /-- What follows. -/
  back : Bytes
  /-- The width of the field, to be filled up with blanks. -/
  width : Option Nat
  /-- Whether the number stands at the left of the field. -/
  left : Bool
  /-- The width of the number, to be filled up with zeros. -/
  zeros : Nat
  /-- The number of digits after the point. -/
  places : Option Nat

/-- Everything that is set. -/
structure Manner where
  /-- What letters mean that are read. -/
  from_ : Letters
  /-- What letters mean that are written. -/
  to_ : Letters
  /-- What numbers that are read are multiplied with. -/
  fromUnit : Nat
  /-- What they are divided by. -/
  toUnit : Nat
  /-- How they are rounded. -/
  direction : Direction
  /-- What is done about texts that are no numbers. -/
  tolerance : Tolerance
  /-- What follows numbers, if anything may. -/
  suffix : Option Bytes
  /-- What is around them. -/
  frame : Frame
  /-- The byte between fields; if there is none, blanks are. -/
  delimiter : Option UInt8
  /-- The numbers of the fields. -/
  fields : List Span
  /-- The byte that ends lines. -/
  ending : UInt8

/-- A number in its units. -/
def written (m : Manner) (v : Value) (places : Nat) : Bytes :=
  let f := { Text.Format.plain with zeros := m.frame.zeros ≠ 0, width := m.frame.zeros }
  if m.to_ = .none then
    (m.direction.roundTo places v).shown f places
  else
    let base := m.to_.base
    let (power, v) := reduce base 64 v
    let kept := match m.frame.places with
      | some n => min (power * 3) n
      | none => if v.isBelow 10 then 1 else 0
    let v := m.direction.roundTo kept v
    let (power, v) := if v.isBelow base then (power, v) else (power + 1, v.dividedBy base)
    let pointed := v.mantissa ≠ 0 && v.isBelow 10 && 0 < power
    let places := m.frame.places.getD (if pointed then 1 else 0)
    let unit : Bytes := if power = 0 then [] else [units.getD (power - 1) 0x28]
    v.shown f places ++ unit ++ (if m.to_ = .marked ∧ 0 < power then [0x69] else [])

/-- Says what is wrong with a number, if that is to be said. -/
def blame (m : Manner) (what : Bytes) : Work Unit := do
  if m.tolerance = .abort then fail 2 what
  if m.tolerance ≠ .ignore then say what

/-- Writes a text in a field of a width. -/
def aligned (f : Frame) (width : Nat) (text : Bytes) : Bytes :=
  let fill := List.replicate (width - text.length) (0x20 : UInt8)
  if f.left then text ++ fill else fill ++ text

/-- Writes a field anew; the answer is whether it is a number. -/
def convert (m : Manner) (number : Nat) (text : Bytes) : Work Bool := do
  let text := match m.suffix with
    | some s =>
      if s.length < text.length ∧ s.isSuffixOf text then
        text.take (text.length - s.length)
      else text
    | none => text
  let body := text.dropWhile fun b => b = 0x20 || (0x09 ≤ b && b ≤ 0x0D)
  let width := match m.frame.width, m.delimiter with
    | some n, _ => n
    | none, none => if body.length < text.length ∨ 1 < number then text.length else 0
    | none, some _ => 0
  match readNumber m.from_ body with
  | .error d =>
    blame m (d.message body)
    put text
    return false
  | .ok (v, places) =>
    let v := if m.fromUnit ≠ 1 ∨ m.toUnit ≠ 1 then (v.times m.fromUnit).dividedBy m.toUnit else v
    let places := m.frame.places.getD places
    let size := (reduce 10 64 v).1
    if m.to_ = .none ∧ 18 < size + places then
      let what := if places ≠ 0 then utf8 "value/precision too large to be printed: '" ++ v.brief ++
          utf8 s!"/{places}'" else utf8 "value too large to be printed: '" ++ v.brief ++ utf8 "'"
      blame m (what ++ utf8 " (consider using --to)")
      put text
      return false
    if 26 < size then
      blame m (utf8 "value too large to be printed: '" ++ v.brief ++
        utf8 "' (cannot handle values > 999Y)")
      put text
      return false
    let shown := written m v places ++ m.suffix.getD []
    put (m.frame.front ++ aligned m.frame width shown ++ m.frame.back)
    return true

/-- The first field of a line, and what follows it. -/
def splitField (delimiter : Option UInt8) (line : Bytes) : Bytes × Bytes :=
  let isBlank := fun (b : UInt8) => b = 0x20 || b = 0x09 || b = 0x0A
  let field := match delimiter with
    | some d => line.takeWhile (· ≠ d)
    | none =>
      let blanks := line.takeWhile isBlank
      blanks ++ (line.drop blanks.length).takeWhile (!isBlank ·)
  (field, line.drop field.length)

/-- Writes the fields of a line from one on; the answer is whether all are numbers that should
be. -/
def convertFields (m : Manner) : Nat → Nat → Bytes → Work Bool
  | 0, _, _ => return true
  | fuel + 1, number, line => do
    let (field, rest) := splitField m.delimiter line
    let good ← if m.fields.any fun s => s.first ≤ number && number ≤ s.last then
        convert m number field
      else do
        put field
        pure true
    match rest with
    | [] => return good
    | _ :: rest =>
      put [m.delimiter.getD 0x20]
      return (← convertFields m fuel (number + 1) rest) && good

/-- Writes a line; the answer is whether all its fields are numbers that should be. -/
def convertLine (m : Manner) (line : Bytes) : Work Bool :=
  convertFields m (line.length + 1) 1 (line.takeWhile (· ≠ 0))

/-! ### Options -/

/-- A whole number with a sign, from the front of a text, and the rest. -/
def signedFront (text : Bytes) : Option Int × Bytes :=
  let body := text.dropWhile fun b => b = 0x20 || (0x09 ≤ b && b ≤ 0x0D)
  let (negative, body) := match body with
    | 0x2D :: rest => (true, rest)
    | 0x2B :: rest => (false, rest)
    | _ => (false, body)
  let digits := body.takeWhile Amount.isDigit
  if digits = [] then (none, text)
  else
    let n : Int := Amount.count digits
    (some (if negative then -n else n), body.drop digits.length)

/-- What stands in front of a directive, and what follows its percent sign. -/
def directiveOf : Nat → Nat → Bytes → Option (Nat × Bytes)
  | 0, _, _ => none
  | fuel + 1, passed, text =>
    match text with
    | [] => none
    | 0x25 :: 0x25 :: rest => directiveOf fuel (passed + 1) rest
    | 0x25 :: rest => some (passed, rest)
    | _ :: rest => directiveOf fuel (passed + 1) rest

/-- The flags of a directive: whether zeros fill it up, and what follows. -/
def flagsOf : Nat → Bool → Bytes → Bool × Bytes
  | 0, zeros, text => (zeros, text)
  | fuel + 1, zeros, text =>
    let body := text.dropWhile (· = 0x20)
    match body with
    | 0x27 :: rest => flagsOf fuel zeros rest
    | 0x30 :: rest => flagsOf fuel true rest
    | _ => if body.length < text.length then flagsOf fuel zeros body else (zeros, body)

/-- What is around a number, as a text with one directive says, or what is wrong with it. -/
def Frame.ofText (f : Frame) (text : Bytes) : Except Bytes Frame :=
  let quoted := Quote.plain text
  match directiveOf (text.length + 1) 0 text with
  | none => .error (utf8 "format " ++ quoted ++ utf8 " has no % directive")
  | some (passed, rest) =>
    let (zeros, rest) := flagsOf (rest.length + 1) false rest
    let (pad, rest) := signedFront rest
    let f := match pad with
      | some n =>
        if n = 0 then f
        else if n < 0 then { f with left := true, width := some n.natAbs }
        else if zeros then { f with zeros := n.natAbs }
        else { f with width := some n.natAbs }
      | none => f
    if rest = [] then .error (utf8 "format " ++ quoted ++ utf8 " ends in %")
    else
      let (places, rest) := match rest with
        | 0x2E :: more =>
          let (n, after) := signedFront more
          let plain := !(more.head?.any fun b => b = 0x20 || b = 0x09 || b = 0x2B)
          (some (if plain then n.getD 0 else -1), after)
        | _ => (none, rest)
      if places.any (· < 0) then .error (utf8 "invalid precision in format " ++ quoted)
      else
        match rest with
        | 0x66 :: back =>
          if (directiveOf (back.length + 1) 0 back).isSome then
            .error (utf8 "format " ++ quoted ++ utf8 " has too many % directives")
          else .ok { f with
            front := text.take passed
            back := back
            places := (places.map Int.toNat).or f.places }
        | _ =>
          .error (utf8 "invalid format " ++ quoted ++
            utf8 ", directive must be %[0]['][-][N][.][N]f")

/-- The size of a unit. -/
def unitOf (text : Bytes) : Work Nat := do
  let lettered := !((text.getLast?.map Amount.isDigit).getD true)
  let marked := text.getLast? = some 0x69 &&
    !((text.dropLast.getLast?.map Amount.isDigit).getD true)
  let body := if !lettered then text else if marked then text.dropLast else text ++ [0x42]
  match Amount.ofText "KMGTPEZY" body with
  | .number n =>
    if n ≠ 0 then return n
    fail 1 (utf8 "invalid unit size: " ++ Quote.plain text)
  | _ => fail 1 (utf8 "invalid unit size: " ++ Quote.plain text)

/-- The meaning of letters of a name. -/
def lettersOf (name : String) : Letters :=
  match name with
  | "auto" => .either
  | "si" => .thousands
  | "iec" => .binary
  | "iec-i" => .marked
  | _ => .none

/-- What an option changes. -/
def adjust (m : Manner) (g : Given) : Work Manner := do
  let value := g.value.getD []
  match g.key with
  | "from" =>
    let name ← Options.choice "--from" [["none"], ["auto"], ["si"], ["iec"], ["iec-i"]] value
    return { m with from_ := lettersOf name }
  | "to" =>
    let name ← Options.choice "--to" [["none"], ["si"], ["iec"], ["iec-i"]] value
    return { m with to_ := lettersOf name }
  | "round" =>
    let name ← Options.choice "--round"
      [["up"], ["down"], ["from-zero"], ["towards-zero"], ["nearest"]] value
    return { m with direction := match name with
      | "up" => .up
      | "down" => .down
      | "towards-zero" => .towardsZero
      | "nearest" => .nearest
      | _ => .fromZero }
  | "invalid" =>
    let name ← Options.choice "--invalid" [["abort"], ["fail"], ["warn"], ["ignore"]] value
    return { m with tolerance := match name with
      | "fail" => .fail
      | "warn" => .warn
      | "ignore" => .ignore
      | _ => .abort }
  | "from-unit" => return { m with fromUnit := ← unitOf value }
  | "to-unit" => return { m with toUnit := ← unitOf value }
  | "padding" =>
    let (n, rest) := signedFront value
    match n with
    | some n =>
      if n = 0 ∨ rest ≠ [] then fail 1 (utf8 "invalid padding value " ++ Quote.plain value)
      return { m with frame := { m.frame with
        width := some n.natAbs
        left := m.frame.left || n < 0 } }
    | none => fail 1 (utf8 "invalid padding value " ++ Quote.plain value)
  | "field" =>
    if m.fields ≠ [] then fail 1 (utf8 "multiple field specifications")
    if value = [0x2D] then return { m with fields := [⟨1, Span.greatest⟩] }
    match Span.readList Span.ofFields value .fresh with
    | .ok spans => return { m with fields := spans }
    | .error e => misused 1 e
  | "d" =>
    if 1 < value.length then fail 1 (utf8 "the delimiter must be a single character")
    return { m with delimiter := some (value.headD 0) }
  | "z" => return { m with ending := 0 }
  | "suffix" => return { m with suffix := some value }
  | "header" =>
    match g.value with
    | some text =>
      match Amount.ofText "" text with
      | .number n =>
        if n = 0 then fail 1 (utf8 "invalid header value " ++ Quote.plain text)
        return m
      | _ => fail 1 (utf8 "invalid header value " ++ Quote.plain text)
    | none => return m
  | _ => return m

end Quantity

/-- Writes numbers in other units. -/
def numfmt (args : List Bytes) : Work Unit := do
  let f ← Options.read [.valued "d" "delimiter", .flag "z" "zero-terminated", .valued "" "from",
    .valued "" "from-unit", .valued "" "to", .valued "" "to-unit", .valued "" "round",
    .flag "" "grouping", .valued "" "padding", .valued "" "field", .valued "" "suffix",
    .flag "" "debug", ⟨"", "header", .optional⟩, .valued "" "format", .valued "" "invalid"]
    true 1 args
  let mut m : Quantity.Manner := ⟨.none, .none, 1, 1, .fromZero, .abort, none,
    ⟨[], [], none, false, 0, none⟩, none, [], 0x0A⟩
  for g in f.given do
    m ← Quantity.adjust m g
  if m.fields = [] then m := { m with fields := [⟨1, 1⟩] }
  if f.has "format" ∧ f.has "grouping" then
    fail 1 (utf8 "--grouping cannot be combined with --format")
  match f.value? "format" with
  | some text =>
    match m.frame.ofText text with
    | .ok frame => m := { m with frame := frame }
    | .error e => fail 1 e
  | none => pure ()
  if f.has "grouping" ∧ m.to_ ≠ .none then
    fail 1 (utf8 "grouping cannot be combined with --to")
  let manner := m
  if f.has "debug" ∧ m.from_ = .none ∧ m.to_ = .none ∧ !f.has "grouping" ∧ m.frame.width.isNone ∧
      !f.has "format" then
    say (utf8 "no conversion option specified")
  let mut good := true
  if f.operands ≠ [] then
    for text in f.operands do
      good := (← Quantity.convertLine manner text) && good
      put [manner.ending]
  else
    let heads := if !f.has "header" then 0
      else (f.value? "header").elim 1 fun text => Amount.count (text.filter Amount.isDigit)
    let (result, s) ← (Source.ofOpen 0).foldLines manner.ending (heads, true)
      fun (left, good) l => do
        if 0 < left then
          put (l.whole manner.ending)
          return (left - 1, good)
        let fine ← Quantity.convertLine manner l.bytes
        if l.ended then put [manner.ending]
        return (0, good && fine)
    good := result.2
    match s.failure with
    | some e => complain (utf8 ("error reading input: " ++ e.libraryText))
    | none => pure ()
  if !good ∧ m.tolerance ≠ .warn ∧ m.tolerance ≠ .ignore then exit 2

end CommandShell.Tool
