import CommandShell.Tool.Sort

/-!
# Lines that occur more than once

Lines in order are compared with their neighbours in the same file or with the lines of another
file: runs of the same line are written once or counted, and lines of one file are told from those
that are in both.
-/

namespace CommandShell.Tool

open Work Text

/-! ### Runs of the same line -/

namespace Runs

/-- Which part of lines is compared, and how. -/
structure Comparison where
  /-- The number of fields that are left out. -/
  fields : Nat
  /-- The number of bytes after them that are left out. -/
  bytes : Nat
  /-- The number of bytes that are compared. -/
  width : Option Nat
  /-- Upper and lower case are the same. -/
  folds : Bool

/-- The part of a line that is compared. -/
def Comparison.part (c : Comparison) (line : Bytes) : Bytes :=
  let text := line.drop (Sorting.Key.skipFields none c.fields line + c.bytes)
  let text := match c.width with
    | some n => text.take n
    | none => text
  if c.folds then text.map Regex.upper else text

/-- The runs of lines that are the same. -/
def split (c : Comparison) (lines : List Bytes) : List (List Bytes) :=
  lines.splitBy fun a b => c.part a = c.part b

/-- Where blank lines stand between runs. -/
structure Gaps where
  /-- In front of the first run. -/
  before : Bool
  /-- Between two runs. -/
  between : Bool
  /-- After the last run. -/
  after : Bool

/-- Which lines of runs are written. -/
structure Manner where
  /-- Lines that occur once. -/
  single : Bool
  /-- Lines that occur more than once. -/
  repeated : Bool
  /-- All lines of a run. -/
  all : Bool
  /-- How often a line occurs is written. -/
  counts : Bool

/-- The lines of a run that are written. -/
def Manner.shown (m : Manner) (run : List Bytes) : List Bytes :=
  match run with
  | [] => []
  | [line] => if m.single then [line] else []
  | line :: _ =>
    if m.all then if m.repeated then run else run.dropLast
    else if m.repeated then [line] else []

/-- What is written of a run. -/
def Manner.text (m : Manner) (ending : UInt8) (run : List Bytes) : Bytes :=
  let count := utf8 (toString run.length)
  let front := if m.counts then List.replicate (7 - count.length) 0x20 ++ count ++ [0x20] else []
  (m.shown run).flatMap fun line => front ++ line ++ [ending]

/-- Puts runs together, with blank lines between them. -/
def Gaps.join (g : Gaps) (ending : UInt8) (runs : List Bytes) : Bytes :=
  if runs = [] then []
  else
    let blank := fun (is : Bool) => if is then [ending] else []
    blank g.before ++ (blank g.between).intercalate runs ++ blank g.after

/-- The number that an option has. -/
def number (what : String) (text : Bytes) : Work Nat :=
  match Amount.ofText "" text with
  | .number n => return n
  | .excessive => return Amount.greatest
  | .invalid => fail 1 (text ++ utf8 (": invalid number of " ++ what))

/-- Takes numbers with a sign out of the arguments: a plus sign counts bytes, a dash fields. -/
def modernized : List Bytes → List Bytes
  | [] => []
  | arg :: rest =>
    if arg = utf8 "--" then arg :: rest
    else if 1 < arg.length ∧ arg.tail.all Amount.isDigit ∧ arg.head? = some 0x2B then
      (utf8 "-s" ++ arg.tail) :: modernized rest
    else if 1 < arg.length ∧ arg.tail.all Amount.isDigit ∧ arg.head? = some 0x2D then
      (utf8 "-f" ++ arg.tail) :: modernized rest
    else arg :: modernized rest

end Runs

/-- Writes one of the lines of each run. -/
def uniq (args : List Bytes) : Work Unit := do
  let f ← Options.read [.flag "c" "count", .flag "d" "repeated", .flag "D" "",
    ⟨"", "all-repeated", .optional⟩, .valued "f" "skip-fields", .flag "i" "ignore-case",
    .valued "s" "skip-chars", .flag "u" "unique", .valued "w" "check-chars",
    .flag "z" "zero-terminated", ⟨"", "group", .optional⟩] true 1 (Runs.modernized args)
  let mut c : Runs.Comparison := ⟨0, 0, none, f.has "i"⟩
  let mut gaps : Option Runs.Gaps := none
  let mut repeatedGaps : Runs.Gaps := ⟨false, false, false⟩
  for g in f.given do
    let value := g.value.getD []
    match g.key with
    | "f" => c := { c with fields := ← Runs.number "fields to skip" value }
    | "s" => c := { c with bytes := ← Runs.number "bytes to skip" value }
    | "w" => c := { c with width := some (← Runs.number "bytes to compare" value) }
    | "all-repeated" =>
      let way ← match g.value with
        | none => pure "none"
        | some word =>
          Options.choice "--all-repeated" [["none"], ["prepend"], ["separate"]] word
      repeatedGaps := ⟨way = "prepend", way ≠ "none", false⟩
    | "group" =>
      let way ← match g.value with
        | none => pure "separate"
        | some word =>
          Options.choice "--group" [["prepend"], ["append"], ["separate"], ["both"]] word
      gaps := some ⟨way = "prepend" || way = "both", true, way = "append" || way = "both"⟩
    | _ => pure ()
  let all := f.has "D" || f.has "all-repeated"
  if gaps.isSome ∧ (f.has "c" ∨ f.has "d" ∨ f.has "u" ∨ all) then
    misused 1 (utf8 "--group is mutually exclusive with -c/-d/-D/-u")
  if f.has "c" ∧ all then
    misused 1 (utf8 "printing all duplicated lines and repeat counts is meaningless")
  match f.operands with
  | _ :: _ :: extra :: _ => extraOperand 1 extra
  | _ => pure ()
  let name := f.operands.headD [0x2D]
  let fd ← match ← openInput name with
    | .ok fd => pure fd
    | .error e => fail 1 (Quote.name name ++ utf8 (": " ++ e.libraryText))
  match f.operands with
  | [_, output] =>
    if !isInput output then
      match ← call (.openFile output .writing) with
      | .ok out => let _ ← call (.redirect out 1)
      | .error e => fail 1 (Quote.name output ++ utf8 (": " ++ e.libraryText))
  | _ => pure ()
  let ending : UInt8 := if f.has "z" then 0 else 0x0A
  let (bytes, s) ← (Source.ofOpen fd).rest
  let runs := Runs.split c ((linesOf ending bytes).map (·.bytes))
  match gaps with
  | some g => put (g.join ending (runs.map fun run => run.flatMap (· ++ [ending])))
  | none =>
    let m : Runs.Manner :=
      ⟨!(f.has "d" || all), !f.has "u", all, f.has "c"⟩
    let shown := (runs.map (m.text ending)).filter (· ≠ [])
    if all then put (repeatedGaps.join ending shown) else put shown.flatten
  match s.failure with
  | some e => fail 1 (utf8 "error reading " ++ Quote.shell name ++ utf8 (": " ++ e.libraryText))
  | none => pure ()

/-! ### Lines of two files -/

namespace Common

/-- A file whose lines are compared with those of another. -/
structure Side where
  /-- Its number. -/
  number : Nat
  /-- The line before. -/
  before : Option Bytes
  /-- The lines from the one that is compared on. -/
  lines : List Bytes
  /-- It was said that it is not in order. -/
  blamed : Bool

/-- How files are compared. -/
structure Manner where
  /-- The columns that are written. -/
  columns : List Nat
  /-- What stands in front of a column. -/
  joint : Bytes
  /-- What ends a line. -/
  ending : UInt8
  /-- Whether it matters if the files are in order, if that is said. -/
  checks : Option Bool

/-- Writes a line in a column. -/
def write (m : Manner) (column : Nat) (line : Bytes) : Work Unit := do
  if m.columns.contains column then
    let fronts := m.columns.filter (· < column)
    put (fronts.flatMap (fun _ => m.joint) ++ line ++ [m.ending])

/-- Goes to the next line of a file. If it comes before the last one, this may be worth a
complaint. -/
def step (m : Manner) (unpaired : Bool) (side : Side) : Work Side := do
  let pair := match side.lines with
    | a :: b :: _ => some (a, b)
    | [a] => side.before.map fun before => (before, a)
    | [] => none
  let disordered : Bool := pair.any fun p => Collation.bytes p.1 p.2 = .gt
  let checked : Bool := m.checks = some true || (m.checks.isNone && unpaired)
  let next : Side := { side with before := side.lines.head?, lines := side.lines.tail }
  let newly := disordered && checked && !side.blamed
  if newly then
    say (utf8 s!"file {side.number} is not in sorted order")
    if m.checks = some true then exit 1
    return { next with blamed := true }
  return next

/-- Writes the lines of two files, each in a column that says where it is. -/
def compare (m : Manner) : Nat → Bool → Side → Side → List Nat → Work (Bool × List Nat)
  | 0, _, _, _, totals => return (false, totals)
  | fuel + 1, unpaired, x, y, totals => do
    let order : Option Ordering := match x.lines, y.lines with
      | [], [] => none
      | [], _ :: _ => some .gt
      | _ :: _, [] => some .lt
      | a :: _, b :: _ => some (Collation.bytes a b)
    match order with
    | none => return (x.blamed || y.blamed, totals)
    | some .eq =>
      write m 3 (y.lines.headD [])
      let x ← step m unpaired x
      let y ← step m unpaired y
      compare m fuel unpaired x y (totals.modify 2 (· + 1))
    | some .lt =>
      write m 1 (x.lines.headD [])
      compare m fuel true (← step m true x) y (totals.modify 0 (· + 1))
    | some .gt =>
      write m 2 (y.lines.headD [])
      compare m fuel true x (← step m true y) (totals.modify 1 (· + 1))

end Common

/-- Writes the lines of two files in columns: those of the first, of the second, and of both. -/
def comm (args : List Bytes) : Work Unit := do
  let f ← Options.read [.flag "1" "", .flag "2" "", .flag "3" "", .flag "z" "zero-terminated",
    .flag "" "check-order", .flag "" "nocheck-order", .valued "" "output-delimiter",
    .flag "" "total"] true 1 args
  let joints := f.given.filterMap fun g => if g.key = "output-delimiter" then g.value else none
  if joints.any fun j => j ≠ joints.headD [] then
    fail 1 (utf8 "multiple output delimiters specified")
  let (one, two) ← match f.operands with
    | [] => missingOperand 1
    | [a] => misused 1 (utf8 "missing operand after " ++ Quote.plain a)
    | [a, b] => pure (a, b)
    | _ :: _ :: extra :: _ => extraOperand 1 extra
  let ending : UInt8 := if f.has "z" then 0 else 0x0A
  let joint := match joints with
    | [] => [0x09]
    | [] :: _ => [0]
    | j :: _ => j
  let m : Common.Manner :=
    { columns := [1, 2, 3].filter fun n => !f.has (toString n)
      joint := joint, ending := ending
      checks := (f.last? ["check-order", "nocheck-order"]).map (· = "check-order") }
  let side : Nat → Bytes → Work Common.Side := fun n name => do
    match ← contentOf name with
    | .ok text => return ⟨n, none, (linesOf ending text).map (·.bytes), false⟩
    | .error e => fail 1 (Quote.name name ++ utf8 (": " ++ e.libraryText))
  let x ← side 1 one
  let y ← side 2 two
  let (disordered, totals) ←
    Common.compare m (x.lines.length + y.lines.length + 1) false x y [0, 0, 0]
  if f.has "total" then
    put (joint.intercalate (totals.map (fun n => utf8 (toString n)) ++ [utf8 "total"]) ++ [ending])
  if disordered then fail 1 (utf8 "input is not in sorted order")

end CommandShell.Tool
