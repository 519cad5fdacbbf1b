import CommandShell.Text.Format
import CommandShell.Text.RegexSyntax
import CommandShell.Tool.Input
import CommandShell.Tool.Number
import CommandShell.Tool.Words

/-!
# Files cut at lines that are named

A file is cut in front of lines of certain numbers, and of lines that match an expression. Each
section goes to a file of its own, or is passed over. If something goes wrong, the files that were
made are taken away.
-/

namespace CommandShell.Tool

open Work

namespace Sections

/-! ### Where to cut -/

/-- A place to cut at. -/
inductive Cut where
  /-- In front of a line, and of each further one that is as far away. -/
  | line (number : Nat)
  /-- In front of a line that matches, or as far from it as is said. The lines before it may not be
  wanted. -/
  | expression (r : Text.Regex) (offset : Int) (skips : Bool)

/-- How often there is a place. -/
structure Place where
  /-- The text that says so. -/
  text : Bytes
  /-- The place. -/
  cut : Cut
  /-- The number of times after the first, if there is an end to them. -/
  more : Option Nat

/-- What is wrong with the text of an expression. -/
def badExpression (text : Bytes) (e : Text.Regex.Fault) : Bytes :=
  Quote.plain text ++ utf8 (": invalid regular expression: " ++ e.text)

/-- A place from its text. The text of a number is compared with the number before it. -/
def cutOf (text : Bytes) (last : Nat) : Work (Cut × Nat) := do
  match text with
  | delimiter :: body =>
    if delimiter = slash ∨ delimiter = 0x25 then
      if !body.contains delimiter then
        fail 1 (text ++ utf8 ": closing delimiter '" ++ [delimiter] ++ utf8 "' missing")
      let back := (body.reverse.takeWhile (· ≠ delimiter)).reverse
      let pattern := body.take (body.length - back.length - 1)
      let r ← match Text.Regex.parse .basic pattern with
        | .ok (r, _) => pure r
        | .error e => fail 1 (badExpression text e)
      let (negative, digits) := match back.dropWhile (utf8 " \t\n\x0b\x0c\r").contains with
        | 0x2D :: rest => (true, rest)
        | 0x2B :: rest => (false, rest)
        | rest => (false, rest)
      if back ≠ [] ∧ (digits = [] ∨ !digits.all Amount.isDigit ∨
          0x7FFFFFFFFFFFFFFF < Amount.count digits) then
        fail 1 (Quote.plain text ++ utf8 ": integer expected after delimiter")
      let n : Int := Amount.count digits
      return (.expression r (if negative then -n else n) (delimiter = 0x25), last)
    else numbered
  | [] => numbered
where
  /-- A place that is named by its number. -/
  numbered : Work (Cut × Nat) := do
    match Amount.ofText "" text with
    | .number n =>
      if n = 0 then fail 1 (text ++ utf8 ": line number must be greater than zero")
      if n < last then
        fail 1 (utf8 "line number " ++ Quote.plain text ++
          utf8 s!" is smaller than preceding line number, {last}")
      if n = last then
        say (utf8 "warning: line number " ++ Quote.plain text ++
          utf8 " is the same as preceding line number")
      return (.line n, n)
    | _ => fail 1 (Quote.plain text ++ utf8 ": invalid pattern")

/-- How often a place comes again. -/
def repetitionOf (text : Bytes) : Work (Option Nat) := do
  if text.getLast? ≠ some 0x7D then
    fail 1 (Quote.plain text ++ utf8 ": '\x7d' is required in repeat count")
  let inner := (text.drop 1).dropLast
  if inner = [0x2A] then return none
  match Amount.ofText "" inner with
  | .number n => return some n
  | _ =>
    fail 1 (Quote.plain text.dropLast ++
      utf8 "\x7d: integer required between '\x7b' and '\x7d'")

/-- The places that some texts name. -/
def placesOf : List Bytes → Nat → Work (List Place)
  | [], _ => return []
  | [text], last => do
    let (cut, _) ← cutOf text last
    return [⟨text, cut, some 0⟩]
  | text :: times :: rest, last => do
    let (cut, last) ← cutOf text last
    if times.head? = some 0x7B then
      let more ← repetitionOf times
      return ⟨text, cut, more⟩ :: (← placesOf rest last)
    else return ⟨text, cut, some 0⟩ :: (← placesOf (times :: rest) last)

/-! ### Names -/

/-- How the files are named. -/
structure Naming where
  /-- What stands in front of the number. -/
  front : Bytes
  /-- How the number is written. -/
  format : Text.Format
  /-- Its base. -/
  base : Nat
  /-- Whether its digits are capital letters. -/
  capital : Bool
  /-- What follows it. -/
  back : Bytes

/-- The name of a file. -/
def Naming.name (n : Naming) (number : Nat) : Bytes :=
  n.front ++ n.format.unsigned n.base n.capital number ++ n.back

/-- What stands in front of a directive, and what follows its percent sign. -/
def directive : Nat → Bytes → Bytes → Bytes × Option Bytes
  | 0, _, done => (done.reverse, none)
  | fuel + 1, text, done =>
    match text with
    | [] => (done.reverse, none)
    | 0x25 :: 0x25 :: rest => directive fuel rest (0x25 :: done)
    | 0x25 :: rest => (done.reverse, some rest)
    | b :: rest => directive fuel rest (b :: done)

/-- How a text with one directive names files. -/
def Naming.ofText (front text : Bytes) : Work Naming := do
  let (before, rest) := directive (text.length + 1) text []
  match rest with
  | none => fail 1 (utf8 "missing % conversion specification in suffix")
  | some rest =>
    let flags := rest.takeWhile (utf8 "-0'#").contains
    let rest := rest.drop flags.length
    let width := rest.takeWhile Amount.isDigit
    let rest := rest.drop width.length
    let (precision, rest) : Option Nat × Bytes := match rest with
      | 0x2E :: more =>
        let digits := more.takeWhile Amount.isDigit
        (some (Amount.count digits), more.drop digits.length)
      | _ => (none, rest)
    let format := flags.foldl (·.flag ·) Text.Format.plain
    let format := { format with width := Amount.count width, precision := precision }
    match rest with
    | [] => fail 1 (utf8 "missing conversion specifier in suffix")
    | letter :: after =>
      let isDecimal := (utf8 "diu").contains letter
      if !isDecimal ∧ !(utf8 "oxX").contains letter then
        let shown : Bytes := if 0x20 ≤ letter ∧ letter < 0x7F then [letter] else
          0x5C :: [64, 8, 1].map fun n => 0x30 + (letter / n) % 8
        fail 1 (utf8 "invalid conversion specifier in suffix: " ++ shown)
      let wrong : UInt8 := if isDecimal then 0x23 else 0x27
      if flags.contains wrong then
        fail 1 (utf8 "invalid flags in conversion specification: %" ++ [wrong, letter])
      let (after, extra) := directive (after.length + 1) after []
      if extra.isSome then
        fail 1 (utf8 "too many % conversion specifications in suffix")
      let base : Nat := if isDecimal then 10 else if letter = 0x6F then 8 else 16
      return ⟨front ++ before, format, base, letter = 0x58, after⟩

/-! ### Sections -/

/-- What is set. -/
structure Manner where
  /-- How the files are named. -/
  naming : Naming
  /-- The lines that match are left out. -/
  withoutMatches : Bool
  /-- The files stay when something goes wrong. -/
  keeps : Bool
  /-- The sizes of the files are not written. -/
  quiet : Bool
  /-- Files without content are taken away. -/
  withoutEmpty : Bool
  /-- The lines of the file. -/
  lines : Array Bytes

/-- A file that is being made. -/
structure Output where
  /-- Its name. -/
  name : Bytes
  /-- The number under which it is open. -/
  fd : Nat
  /-- Its lines, last first. -/
  lines : List Bytes

/-- How far the file has been cut. -/
structure State where
  /-- The number of the next line; the first has the number one. -/
  first : Nat
  /-- The number of the line that was looked at last. -/
  current : Nat
  /-- The number of files that were made. -/
  created : Nat
  /-- The file that is being made. -/
  output : Option Output

/-- The line of a number, as long as any line is left. -/
def line? (m : Manner) (s : State) (number : Nat) : Option Bytes :=
  if m.lines.size < s.first ∨ number = 0 then none else m.lines[number - 1]?

/-- Ends the file that is being made. -/
def close (m : Manner) (s : State) : Work State := do
  match s.output with
  | none => return s
  | some o =>
    let s := { s with output := none }
    let content := o.lines.reverse.flatten
    let written : Except Errno Unit ← if content = [] then pure (.ok ())
      else call (.write o.fd content)
    let _ ← call (.close o.fd)
    match written with
    | .error _ =>
      say (utf8 "write error for " ++ Quote.shell o.name)
      exit 1
    | .ok () =>
      if content = [] ∧ m.withoutEmpty then
        match ← call (.change (.unlink o.name)) with
        | .ok () => return { s with created := s.created - 1 }
        | .error e =>
          say (Quote.name o.name ++ utf8 (": " ++ e.libraryText))
          return s
      else
        if !m.quiet then putLine (utf8 (toString content.length))
        return s

/-- Ends the work because something is wrong. -/
def abandon {α : Type} (m : Manner) (s : State) : Work α := do
  let s ← close m s
  if !m.keeps then
    for i in List.range s.created do
      let _ ← call (.change (.unlink (m.naming.name i)))
  exit 1

/-- Makes the next file. -/
def create (m : Manner) (s : State) : Work State := do
  let name := m.naming.name s.created
  match ← call (.openFile name .writing) with
  | .ok fd => return { s with created := s.created + 1, output := some ⟨name, fd, []⟩ }
  | .error e =>
    say (Quote.name name ++ utf8 (": " ++ e.libraryText))
    abandon m s

/-- Takes the next line, and puts it into the file that is being made if it is wanted. The answer is
whether there was one. -/
def take (m : Manner) (wanted : Bool) (s : State) : State × Bool :=
  match line? m s s.first with
  | none => (s, false)
  | some line =>
    let output := if wanted then s.output.map fun o => { o with lines := line :: o.lines }
      else s.output
    ({ s with current := max s.current s.first, first := s.first + 1, output := output }, true)

/-- Takes all lines that are left. -/
def takeAll (m : Manner) : Nat → State → State
  | 0, s => s
  | fuel + 1, s =>
    let (s, more) := take m true s
    if more then takeAll m fuel s else s

/-- Says that there is no line to cut at. -/
def noLine {α : Type} (m : Manner) (s : State) (what : Bytes) (repetition : Nat) : Work α := do
  let often := if repetition = 0 then [] else utf8 s!" on repetition {repetition}"
  say (what ++ often)
  abandon m s

/-- What is said when nothing is left. -/
def checkLeft (m : Manner) (s : State) : Work Unit := do
  if (line? m s s.first).isNone then
    fail 1 (utf8 "input disappeared")

/-- Takes lines up to one. -/
def takeUpTo (m : Manner) (wrong : State → Work Unit) (wanted : Bool) (last : Nat) :
    Nat → State → Work State
  | 0, s => return s
  | fuel + 1, s => do
    if last ≤ s.first then return s
    let (s, more) := take m wanted s
    if !more then wrong s
    takeUpTo m wrong wanted last fuel s

/-- Takes lines up to one of a number. -/
def toLine (m : Manner) (number repetition : Nat) (s : State) : Work State := do
  let wrong : State → Work Unit := fun s =>
    noLine m s (Quote.plain (utf8 (toString number)) ++ utf8 ": line number out of range")
      repetition
  let s ← create m s
  let atEnd := fun (s : State) => (line? m s (s.current + 1)).isNone
  if atEnd s ∧ m.withoutMatches then wrong s
  checkLeft m s
  let s ← takeUpTo m wrong true (number * (repetition + 1)) (m.lines.size + 2) s
  let s ← close m s
  if m.withoutMatches then return (take m false s).1
  if atEnd s then wrong s
  return s

/-- Looks for a line that matches; lines that do not are taken at once if that is asked for. The
answer is whether there is one. -/
def search (m : Manner) (r : Text.Regex) (takes wanted : Bool) : Nat → State → State × Bool
  | 0, s => (s, false)
  | fuel + 1, s =>
    let s := { s with current := s.current + 1 }
    match line? m s s.current with
    | none => (s, false)
    | some line =>
      let body := if line.getLast? = some 0x0A then line.dropLast else line
      if (Text.Regex.find ⟨body.toArray, false, false⟩ r 0).isSome then (s, true)
      else search m r takes wanted fuel (if takes then (take m wanted s).1 else s)

/-- Takes lines up to a line that matches, or as far from it as is said. -/
def toMatch (m : Manner) (p : Place) (r : Text.Regex) (offset : Int) (skips : Bool)
    (repetition : Nat) (s : State) : Work (State × Bool) := do
  let s ← if skips then pure s else create m s
  let (s, found) := search m r (0 ≤ offset) (!skips) (m.lines.size + 2) s
  if !found then
    let rest := takeAll m (m.lines.size + 1) s
    if p.more.isNone then
      return (← if skips then pure s else close m rest, false)
    else
      let often := if repetition = 0 then [] else utf8 s!" on repetition {repetition}"
      say (Quote.plain p.text ++ utf8 ": match not found" ++ often)
      abandon m (if skips then s else rest)
  let goal : Int := s.current + offset
  let wrong : State → Work Unit := fun s => do
    say (Quote.plain p.text ++ utf8 ": line number out of range")
    abandon m s
  checkLeft m s
  if goal < s.first then wrong s
  let s ← takeUpTo m wrong (!skips) goal.toNat (m.lines.size + 2) s
  let s ← if skips then pure s else close m s
  let s := if 0 < offset then { s with current := goal.toNat } else s
  return (if m.withoutMatches then (take m false s).1 else s, true)

/-- Cuts at a place as often as it comes. The answer is whether the work goes on. -/
def cutAt (m : Manner) (p : Place) : Nat → Nat → State → Work (State × Bool)
  | 0, _, s => return (s, true)
  | fuel + 1, repetition, s => do
    if p.more.any (· < repetition) then return (s, true)
    match p.cut with
    | .line number => cutAt m p fuel (repetition + 1) (← toLine m number repetition s)
    | .expression r offset skips =>
      let (s, goesOn) ← toMatch m p r offset skips repetition s
      if goesOn then cutAt m p fuel (repetition + 1) s else return (s, false)

/-- Cuts at all places, and puts the rest into a file of its own. -/
def cutAll (m : Manner) : List Place → State → Work Unit
  | [], s => do
    let s ← create m s
    let _ ← close m (takeAll m (m.lines.size + 1) s)
  | p :: rest, s => do
    let (s, goesOn) ← cutAt m p 0x1000000 0 s
    if goesOn then cutAll m rest s

end Sections

/-- Writes the sections of a file to files of their own. -/
def csplit (args : List Bytes) : Work Unit := do
  let f ← Options.read [.valued "b" "suffix-format", .valued "f" "prefix", .flag "k" "keep-files",
    .valued "n" "digits", .flag "s" "quiet", .flag "q" "silent", .flag "z" "elide-empty-files",
    .flag "" "suppress-matched"] true 1 args
  let mut digits := 2
  for g in f.given do
    if g.key = "n" then
      let text := g.value.getD []
      if text.head? = some 0x2D ∧ text.length < 10 ∧ text.tail.all Amount.isDigit ∧
          0 < Amount.count text.tail then
        fail 1 (utf8 "invalid number: " ++ Quote.plain text ++
          utf8 (": " ++ Errno.outOfRange.libraryText))
      digits := ← amount "" 1 "invalid number" text
  let name ← match f.operands with
    | [] => missingOperand 1
    | [name] => misused 1 (utf8 "missing operand after " ++ Quote.plain name)
    | name :: _ => pure name
  let front := (f.value? "f").getD (utf8 "xx")
  let naming ← match f.value? "b" with
    | some text => Sections.Naming.ofText front text
    | none => pure ⟨front, { Text.Format.plain with zeros := true, width := digits }, 10, false, []⟩
  let fd ← match ← openInput name with
    | .ok fd => pure fd
    | .error e =>
      fail 1 (utf8 "cannot open " ++ Quote.shell name ++ utf8 (" for reading: " ++ e.libraryText))
  let places ← Sections.placesOf f.operands.tail 0
  let (text, s) ← (Source.ofOpen fd).rest
  let lines := ((linesOf 0x0A text).map (·.whole 0x0A)).toArray
  let m : Sections.Manner := ⟨naming, f.has "suppress-matched", f.has "k", f.has "s" || f.has "q",
    f.has "z", lines⟩
  match s.failure with
  | some e =>
    let s : Sections.State := ⟨1, 0, 0, none⟩
    let s ← match places with
      | ⟨_, .expression _ _ true, _⟩ :: _ => pure s
      | _ => Sections.create m s
    say (utf8 ("read error: " ++ e.libraryText))
    Sections.abandon m s
  | none => Sections.cutAll m places ⟨1, 0, 0, none⟩

end CommandShell.Tool
