import CommandShell.Text.Format
import CommandShell.Tool.Options

/-!
# Tools that write words

Tools whose output depends on little more than their arguments: words, parts of paths, the
directory, variables of the environment and sequences of numbers.
-/

namespace CommandShell.Tool

namespace Work

/-- A complaint that an operand is missing. -/
def missingOperand {α : Type} (status : Nat) : Work α :=
  misused status (utf8 "missing operand")

/-- A complaint about an operand that is too many. -/
def extraOperand {α : Type} (status : Nat) (operand : Bytes) : Work α :=
  misused status (utf8 "extra operand " ++ Quote.plain operand)

end Work

open Work

/-! ### Words -/

/-- Whether a byte is a digit in base eight. -/
def isOctal (b : UInt8) : Bool :=
  0x30 ≤ b && b ≤ 0x37

/-- The number that digits of base eight spell, as a byte. -/
def octalByte (digits : Bytes) : UInt8 :=
  UInt8.ofNat (digits.foldl (fun n b => n * 8 + (b.toNat - 0x30)) 0 % 256)

/-- The bytes that an escape stands for, after its backslash, and what follows; nothing if the
output ends there. Numbers in base eight may need a zero in front. -/
def echoEscape (rest : Bytes) : Option (Bytes × Bytes) :=
  let octal := fun (text : Bytes) (most : Nat) =>
    let digits := (text.take most).takeWhile isOctal
    ([octalByte digits], text.drop digits.length)
  match rest with
  | 0x63 :: _ => none
  | 0x30 :: d :: more => some (if isOctal d then octal (d :: more) 3 else ([0], d :: more))
  | 0x78 :: more =>
    let digits := (more.take 2).takeWhile fun b => (hexDigit? b).isSome
    if digits = [] then some (utf8 "\\x", more)
    else
      let n := digits.foldl (fun n b => n * 16 + (hexDigit? b).getD 0) 0
      some ([UInt8.ofNat n], more.drop digits.length)
  | _ =>
    match Text.escapeOf rest with
    | some (b, rest) => some ([b], rest)
    | none =>
      match rest with
      | [] => some ([0x5C], [])
      | b :: rest => some ([0x5C, b], rest)

/-- A text with its escapes replaced, and whether the output goes on after it. -/
def echoText : Nat → Bytes → Bytes × Bool
  | 0, _ => ([], true)
  | fuel + 1, text =>
    let front := text.takeWhile (· ≠ 0x5C)
    match text.drop front.length with
    | [] => (front, true)
    | _ :: rest =>
      match echoEscape rest with
      | none => (front, false)
      | some (bytes, rest) =>
        let (shown, more) := echoText fuel rest
        (front ++ bytes ++ shown, more)

/-- The options in front of the words: whether a newline follows, and whether escapes are
replaced. -/
def echoOptions : List Bytes → Bool → Bool → Bool × Bool × List Bytes
  | [], newline, escapes => (newline, escapes, [])
  | word :: rest, newline, escapes =>
    match word with
    | 0x2D :: b :: letters =>
      if (b :: letters).all (utf8 "neE").contains then
        let newline := newline && !(b :: letters).contains 0x6E
        let escapes := match ((b :: letters).filter (· ≠ 0x6E)).getLast? with
          | some l => l = 0x65
          | none => escapes
        echoOptions rest newline escapes
      else (newline, escapes, word :: rest)
    | _ => (newline, escapes, word :: rest)

/-- Writes words with blanks between them. -/
def echo (args : List Bytes) : Work Unit := do
  let (newline, escapes, words) := echoOptions args true false
  let rec go : List Bytes → Work Unit
    | [] => if newline then put [0x0A] else return ()
    | word :: rest => do
      let (shown, more) := if escapes then echoText (word.length + 1) word else (word, true)
      put shown
      if more then
        if rest ≠ [] then put [0x20]
        go rest
  go words

/-- Writes a line again and again. -/
def yes (args : List Bytes) : Work Unit := do
  let f ← Options.read [] false 1 args
  let line := [0x20].intercalate (if f.operands = [] then [utf8 "y"] else f.operands) ++ [0x0A]
  let block := (List.replicate (max 1 (8192 / line.length)) line).flatten
  again block 0x10000000
where
  /-- Writes a block as often as it is taken. -/
  again (block : Bytes) : Nat → Work Unit
    | 0 => return ()
    | fuel + 1 => do
      let _ ← call (.work 20)
      match ← call (.write 1 block) with
      | .ok () => again block fuel
      | .error e => complainOf (utf8 "standard output") e

/-- Succeeds or fails. -/
def constant (status : Nat) (_ : List Bytes) : Work Unit :=
  exit status

/-! ### Paths -/

/-- A path without slashes at its end. -/
def withoutSlashes (path : Bytes) : Bytes :=
  (path.reverse.dropWhile (· = slash)).reverse

/-- The last name of a path. -/
def lastName (path : Bytes) : Bytes :=
  let trimmed := withoutSlashes path
  if trimmed = [] then path.take 1 else (trimmed.reverse.takeWhile (· ≠ slash)).reverse

/-- What stands in front of the last name of a path. -/
def frontOf (path : Bytes) : Bytes :=
  let trimmed := withoutSlashes path
  let front := withoutSlashes ((trimmed.reverse.dropWhile (· ≠ slash)).reverse)
  if front = [] then (if path.head? = some slash then [slash] else utf8 ".") else front

/-- The path of an entry of a directory. -/
def below (directory name : Bytes) : Bytes :=
  if directory.getLast? = some slash then directory ++ name else directory ++ slash :: name

/-- Writes the last names of paths, without an ending. -/
def basename (args : List Bytes) : Work Unit := do
  let f ← Options.read [.flag "a" "multiple", .valued "s" "suffix", .flag "z" "zero"] false 1 args
  let many := f.has "a" || f.has "s"
  let ends := if f.has "z" then [0] else [0x0A]
  let show_ : Bytes → Bytes → Work Unit := fun ending path => do
    let name := lastName path
    let cut := ending ≠ [] ∧ ending ≠ name ∧ ending.isSuffixOf name
    put ((if cut then name.take (name.length - ending.length) else name) ++ ends)
  match f.operands with
  | [] => missingOperand 1
  | path :: rest =>
    if many then
      for path in path :: rest do
        show_ ((f.value? "s").getD []) path
    else
      match rest with
      | [] => show_ [] path
      | [ending] => show_ ending path
      | _ :: extra :: _ => extraOperand 1 extra

/-- Writes what stands in front of the last names of paths. -/
def dirname (args : List Bytes) : Work Unit := do
  let f ← Options.read [.flag "z" "zero"] true 1 args
  if f.operands = [] then missingOperand 1
  for path in f.operands do
    put (frontOf path ++ if f.has "z" then [0] else [0x0A])

/-- Writes the directory. -/
def pwd (args : List Bytes) : Work Unit := do
  let f ← Options.read [.flag "L" "logical", .flag "P" "physical"] true 1 args
  if f.operands ≠ [] then say (utf8 "ignoring non-option arguments")
  let logical := f.last? ["L", "P"] = some "L"
  let named ← if logical then setting? "PWD" else pure none
  let placed : Bytes → Work Bool := fun path => do
    if path.head? ≠ some slash ∨
        (path.splitOn slash).any fun n => n = [0x2E] ∨ n = [0x2E, 0x2E] then
      return false
    match ← call (.facts path true), ← call (.facts [0x2E] true) with
    | .ok a, .ok b => return a.location = b.location
    | _, _ => return false
  let useName ← match named with
    | some path => placed path
    | none => pure false
  if useName then putLine (named.getD [])
  else
    match ← call .directory with
    | .ok path => putLine path
    | .error _ =>
      fail 1 (utf8 "couldn't find directory entry in '..' with matching i-node")

/-! ### The environment -/

/-- Writes variables of the environment. -/
def printenv (args : List Bytes) : Work Unit := do
  let f ← Options.read [.flag "0" "null"] false 2 args
  let ends := if f.has "0" then [0] else [0x0A]
  let environment := (← get).environment
  if f.operands = [] then
    for entry in environment do
      put (entry ++ ends)
  else
    for name in f.operands do
      match environment.find? ((name ++ [0x3D]).isPrefixOf ·) with
      | some entry => put (entry.drop (name.length + 1) ++ ends)
      | none => fault 1

/-- Writes a line that does not depend on anything. -/
def fixedLine (line : String) (args : List Bytes) : Work Unit := do
  let f ← Options.read [] true 1 args
  match f.operands with
  | [] => putLine (utf8 line)
  | extra :: _ => extraOperand 1 extra

/-! ### Time -/

/-- A span of time in millionths of a second, from a number with a unit. -/
def span? (text : Bytes) : Option Nat :=
  let ((r, _), rest) := Text.Format.Real.read .extended text
  let unit : Option Nat := match rest with
    | [] => some 1
    | [0x73] => some 1
    | [0x6D] => some 60
    | [0x68] => some 3600
    | [0x64] => some 86400
    | _ => none
  if rest = text then none
  else
    match r, unit with
    | .finite negative mantissa exponent, some n =>
      if negative ∧ mantissa ≠ 0 then none
      else some (Text.Format.scaled (mantissa * n * 1000000) exponent 0)
    | .infinite false, some _ => some 1000000000000000000
    | _, _ => none

/-- Does nothing for some time. -/
def sleep (args : List Bytes) : Work Unit := do
  let f ← Options.read [] true 1 args
  if f.operands = [] then missingOperand 1
  let spans := f.operands.map fun a => (a, span? a)
  for (a, s) in spans do
    if s.isNone then complain (utf8 "invalid time interval " ++ Quote.plain a)
  if spans.any (·.2.isNone) then refer 1
  let _ ← call (.sleep (sumOf (spans.map fun s => s.2.getD 0)))

/-! ### Sequences -/

/-- A number that a sequence is made of. -/
structure Term where
  /-- Whether it is below zero, or a zero with a sign. -/
  negative : Bool
  /-- The number without its point and its sign, unless it is beyond all numbers. -/
  digits : Option Nat
  /-- The number of decimal digits after the point. -/
  places : Nat
  /-- The number of digits after the point to be written, if the text says so. -/
  shownPlaces : Option Nat
  /-- The number of bytes that it takes. -/
  width : Nat

/-- The number one. -/
def Term.one : Term := ⟨false, some 1, 0, some 0, 1⟩

/-- The number that a text is, if it is one. -/
def Term.ofText? (text : Bytes) : Option Term :=
  let text := text.dropWhile fun b => b = 0x20 || (0x09 ≤ b && b ≤ 0x0D)
  let (negative, body) := match text with
    | 0x2D :: rest => (true, rest)
    | 0x2B :: rest => (false, rest)
    | rest => (false, rest)
  let lower := body.map fun b => if 0x41 ≤ b ∧ b ≤ 0x5A then b + 0x20 else b
  let pointed := body.contains 0x2E
  if lower = utf8 "inf" ∨ lower = utf8 "infinity" then some ⟨negative, none, 0, some 0, 0⟩
  else if (utf8 "0x").isPrefixOf lower then
    let (front, back, rest) := Text.Format.Real.parts Text.Format.Real.hexDigitsOf (body.drop 2)
    let (power, rest) := Text.Format.Real.power 0x70 rest
    if front ++ back = [] ∨ rest ≠ [] then none
    else
      let n := Text.Format.Real.hexCount (front ++ back)
      let power := power - 4 * back.length
      let places := (-power).toNat
      let precise := pointed || lower.contains 0x70
      some ⟨negative, some (n * Nat.pow 2 power.toNat * Nat.pow 5 places), places,
        if precise then none else some 0, 0⟩
  else
    let (front, back, rest) := Text.Format.Real.parts Text.Format.Real.digitsOf body
    let (power, after) := Text.Format.Real.power 0x65 rest
    if front ++ back = [] ∨ after ≠ [] then none
    else
      let places : Int := (back.length : Int) - power
      let n := Text.Format.Real.count (front ++ back) * Nat.pow 10 (-places).toNat
      let around : Nat := if back ≠ [] then (if front = [] then 2 else 1) + back.length else 0
      let around := if power < 0 then (if back = [] then 1 else around) + power.natAbs
        else around - (if back ≠ [] ∧ places ≤ 0 then 1 else 0) + (-places).toNat
      some ⟨negative, some n, places.toNat, some places.toNat,
        (if negative then 1 else 0) + front.length + around⟩

/-- The number, multiplied out: times a power of ten that is great enough. -/
def Term.scaleTo (d : Term) (places : Nat) : Int :=
  let n : Int := d.digits.getD 0 * Nat.pow 10 (places - d.places)
  if d.negative then -n else n

/-- A number with so many digits after the point, filled up with zeros in front. -/
def Term.shown (places width : Nat) (negative : Bool) (n : Nat) : Bytes :=
  let digits := Text.Format.digits 10 false n
  let digits := List.replicate (places + 1 - digits.length) (0x30 : UInt8) ++ digits
  let front := digits.take (digits.length - places)
  let back := digits.drop (digits.length - places)
  let body := front ++ (if places = 0 then [] else 0x2E :: back)
  let sign : Bytes := if negative then [0x2D] else []
  sign ++ List.replicate (width - body.length - sign.length) (0x30 : UInt8) ++ body

/-- Writes the numbers of a sequence, as long as they are not beyond the last one. -/
def seqNumbers (shown : Bool → Int → Bytes) (separator : Bytes) (step : Int) (beyond : Int → Bool) :
    Nat → Int → Bool → Work Bool
  | 0, _, first => return !first
  | fuel + 1, n, first => do
    if beyond n then return !first
    let refused ← putChecked ((if first then [] else separator) ++ shown first n)
    match refused with
    | some e =>
      emit ((← get).name ++ utf8 (": write error: " ++ e.libraryText ++ "\n"))
      modify fun d => { d with refused := false }
      exit 1
    | none => seqNumbers shown separator step beyond fuel (n + step) false

/-- The parts of a text with one directive for a number with a fraction. -/
structure NumberFormat where
  /-- What stands in front. -/
  front : Bytes
  /-- How the number is written. -/
  format : Text.Format
  /-- The letter of the directive. -/
  letter : UInt8
  /-- What follows. -/
  back : Bytes

/-- The parts of a text with one directive, or what is wrong with it. -/
def NumberFormat.ofText (text : Bytes) : Except Bytes NumberFormat :=
  let quoted := utf8 "format " ++ Quote.plain text
  match directive (text.length + 1) text [] with
  | none => .error (quoted ++ utf8 " has no % directive")
  | some (front, rest) =>
    let flags := rest.takeWhile (utf8 "-+#0 '").contains
    let format := flags.foldl (·.flag ·) Text.Format.plain
    let rest := rest.drop flags.length
    let width := Text.Format.Real.digitsOf rest
    let format := format.setWidth (Text.Format.Real.count width)
    let rest := rest.drop width.length
    let (format, rest) := match rest with
      | 0x2E :: more =>
        let ds := Text.Format.Real.digitsOf more
        (format.setPrecision (Text.Format.Real.count ds), more.drop ds.length)
      | _ => (format, rest)
    let rest := match rest with
      | 0x4C :: more => more
      | _ => rest
    match rest with
    | [] => .error (quoted ++ utf8 " ends in %")
    | b :: after =>
      if !(utf8 "efgaEFGA").contains b then
        .error (quoted ++ utf8 " has unknown %" ++ [b] ++ utf8 " directive")
      else
        match directive (after.length + 1) after [] with
        | some _ => .error (quoted ++ utf8 " has too many % directives")
        | none => .ok ⟨front, format, b, literal after⟩
where
  /-- What stands in front of a directive, and what follows its percent sign. -/
  directive : Nat → Bytes → Bytes → Option (Bytes × Bytes)
    | 0, _, _ => none
    | fuel + 1, text, done =>
      match text with
      | [] => none
      | 0x25 :: 0x25 :: rest => directive fuel rest (0x25 :: done)
      | 0x25 :: rest => some (done.reverse, rest)
      | b :: rest => directive fuel rest (b :: done)
  /-- A text without directives as it is written. -/
  literal : Bytes → Bytes
    | 0x25 :: 0x25 :: rest => 0x25 :: literal rest
    | b :: rest => b :: literal rest
    | [] => []

/-- The options in front of numbers; a number may begin with a dash. -/
def seqArguments (args : List Bytes) : List Bytes × List Bytes :=
  let isNumber := fun (a : Bytes) => match a with
    | 0x2D :: b :: _ => (0x30 ≤ b && b ≤ 0x39) || b = 0x2E
    | _ => false
  let options := args.takeWhile (!isNumber ·)
  (options, args.drop options.length)

/-- Writes the numbers from one to another. -/
def seq (args : List Bytes) : Work Unit := do
  let (front, numbers) := seqArguments args
  let f ← Options.read [.valued "f" "format", .valued "s" "separator", .flag "w" "equal-width"]
    false 1 front
  let operands := f.operands ++ numbers
  if operands = [] then missingOperand 1
  match operands.drop 3 with
  | extra :: _ => extraOperand 1 extra
  | [] => pure ()
  let format ← match f.value? "f" with
    | none => pure none
    | some text =>
      match NumberFormat.ofText text with
      | .ok n => pure (some n)
      | .error e => fail 1 e
  if format.isSome ∧ f.has "w" then
    misused 1 (utf8 "format string may not be specified when printing equal width strings")
  let values ← operands.mapM fun a => do
    match Term.ofText? a with
    | some d => pure d
    | none =>
      let lower := a.map fun b => if 0x41 ≤ b ∧ b ≤ 0x5A then b + 0x20 else b
      let kind := if lower.filter (!(utf8 " +-").contains ·) = utf8 "nan" then "'not-a-number'"
        else "floating point"
      misused 1 (utf8 ("invalid " ++ kind ++ " argument: ") ++ Quote.plain a)
  let (first, step, last) := match values with
    | [last] => (Term.one, Term.one, last)
    | [first, last] => (first, Term.one, last)
    | [first, step, last] => (first, step, last)
    | _ => (Term.one, Term.one, Term.one)
  if step.digits = some 0 then
    misused 1 (utf8 "invalid Zero increment value: " ++ Quote.plain ((operands[1]?).getD []))
  let all := max first.places (max step.places last.places)
  let scale := fun (d : Term) => d.scaleTo all
  let precise := values.all fun d => d.shownPlaces.isSome
  let places := max (first.shownPlaces.getD 0) (step.shownPlaces.getD 0)
  let point := fun (d : Term) =>
    let own := d.shownPlaces.getD 0
    d.width + places - own + (if own = 0 ∧ places ≠ 0 then 1 else 0) -
      (if own ≠ 0 ∧ places = 0 then 1 else 0)
  let width := if f.has "w" then max (point first) (point last) else 0
  let shown := fun (isFirst : Bool) (n : Int) =>
    let negative := n < 0 || (isFirst && first.negative)
    let real := fun (_ : Unit) =>
      if first.digits.isNone then .infinite first.negative
      else (Text.Format.Real.nearest .extended negative n.natAbs (Nat.pow 10 all)).1
    match format with
    | none =>
      if precise ∧ first.digits.isSome then
        Term.shown places width negative (n.natAbs / Nat.pow 10 (all - places))
      else Text.Format.plain.real .extended 0x67 (real ())
    | some t => t.front ++ t.format.real .extended t.letter (real ()) ++ t.back
  let separator := (f.value? "s").getD [0x0A]
  let start := scale first
  let beyond := fun (n : Int) =>
    let past := if first.digits.isNone then
        first.negative = step.negative && !(last.digits.isNone && last.negative = first.negative)
      else if last.digits.isNone then last.negative ≠ step.negative
      else if step.negative then n < scale last else scale last < n
    past || (step.digits.isNone && n ≠ start)
  let stride := if step.digits.isNone then 1 else scale step
  if ← seqNumbers shown separator stride beyond 0x10000000 start true then
    put [0x0A]

end CommandShell.Tool
