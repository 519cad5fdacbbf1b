import CommandShell.Text.RegexSyntax
import CommandShell.Tool.Input

/-!
# Numbering lines

Lines are numbered by the style of the part of a page that they are in: head, body or foot. A line
that consists of marks begins such a part.
-/

namespace CommandShell.Tool

open Work

namespace LineNumbers

/-- Which lines are numbered. -/
inductive Style where
  /-- All. -/
  | all
  /-- Those that are not empty. -/
  | filled
  /-- None. -/
  | none
  /-- Those that match an expression. -/
  | matching (r : Text.Regex)

/-- A part of a page. -/
inductive Section where
  | head | body | foot
deriving DecidableEq

/-- How numbers are placed. -/
inductive Placement where
  | left | right | zeros
deriving DecidableEq

/-- How lines are numbered. -/
structure Manner where
  /-- The style of a part. -/
  style : Section → Style
  /-- The mark that lines between parts consist of. -/
  mark : Bytes
  /-- The first number. -/
  first : Int
  /-- The difference between two numbers. -/
  step : Int
  /-- Each part begins with the first number. -/
  restarts : Bool
  /-- So many empty lines count as one. -/
  join : Nat
  /-- What stands after a number. -/
  separator : Bytes
  /-- The width of numbers. -/
  width : Nat
  /-- How they are placed in it. -/
  placement : Placement

/-- How far the numbering has come. -/
structure Progress where
  /-- The part. -/
  part : Section
  /-- The next number. -/
  next : Int
  /-- The number of empty lines that were not numbered. -/
  empty : Nat

/-- The part that begins with a line. -/
def sectionOf (mark line : Bytes) : Option Section :=
  if mark.length < 2 then none
  else if line = mark ++ mark ++ mark then some .head
  else if line = mark ++ mark then some .body
  else if line = mark then some .foot
  else none

/-- A number as it is written. -/
def shown (m : Manner) (n : Int) : Bytes :=
  let sign : Bytes := if n < 0 then [0x2D] else []
  let digits := utf8 (toString n.natAbs)
  let text := sign ++ digits
  let gap := m.width - text.length
  match m.placement with
  | .left => text ++ List.replicate gap 0x20
  | .right => List.replicate gap 0x20 ++ text
  | .zeros => sign ++ List.replicate gap 0x30 ++ digits

/-- Writes a line, numbered or not. -/
def write (m : Manner) (p : Progress) (numbered : Bool) (line : Bytes) : Work Progress := do
  if numbered then
    put (shown m p.next ++ m.separator ++ line ++ [0x0A])
    return { p with next := p.next + m.step }
  else
    put (List.replicate (m.width + m.separator.length) 0x20 ++ line ++ [0x0A])
    return p

/-- Goes on with a line. -/
def step (m : Manner) (p : Progress) (l : TextLine) : Work Progress := do
  match sectionOf m.mark l.bytes with
  | some part =>
    put [0x0A]
    return { p with part := part, next := if m.restarts then m.first else p.next }
  | none =>
    match m.style p.part with
    | .all =>
      if m.join ≤ 1 then write m p true l.bytes
      else if l.bytes ≠ [] ∨ p.empty + 1 = m.join then
        write m { p with empty := 0 } true l.bytes
      else write m { p with empty := p.empty + 1 } false l.bytes
    | .filled => write m p (l.bytes ≠ []) l.bytes
    | .none => write m p false l.bytes
    | .matching r =>
      write m p (Text.Regex.find ⟨l.bytes.toArray, false, false⟩ r 0).isSome l.bytes

/-- The style that a text describes. -/
def style? (text : Bytes) : Except Bytes (Option Style) :=
  match text with
  | 0x61 :: _ => .ok (some .all)
  | 0x74 :: _ => .ok (some .filled)
  | 0x6E :: _ => .ok (some .none)
  | 0x70 :: rest =>
    match Text.Regex.parse .basic rest with
    | .ok (r, _) => .ok (some (.matching r))
    | .error e => .error (utf8 e.text)
  | _ => .ok none

/-- The whole number that a text is, if it is not less than a least one. -/
def number (what : String) (least : Option Int) (text : Bytes) : Work Int := do
  let complaint := utf8 ("invalid " ++ what ++ ": ") ++ Quote.plain text
  let (negative, digits) := match text with
    | 0x2D :: rest => (true, rest)
    | 0x2B :: rest => (false, rest)
    | _ => (false, text)
  if digits = [] ∨ !digits.all Amount.isDigit then fail 1 complaint
  let size : Int := Amount.count digits
  let n := if negative then -size else size
  if 0x8000000000000000 ≤ n ∨ n < -0x8000000000000000 then
    fail 1 (complaint ++ utf8 (": " ++ Errno.valueTooLarge.libraryText))
  if least.any fun l => decide (n < l) then
    fail 1 (complaint ++ utf8 ": Numerical result out of range")
  return n

end LineNumbers

open LineNumbers

/-- Numbers lines. -/
def nl (args : List Bytes) : Work Unit := do
  let f ← Options.read [.valued "h" "header-numbering", .valued "b" "body-numbering",
    .valued "f" "footer-numbering", .valued "v" "starting-line-number",
    .valued "i" "line-increment", .flag "p" "no-renumber", .valued "l" "join-blank-lines",
    .valued "s" "number-separator", .valued "w" "number-width", .valued "n" "number-format",
    .valued "d" "section-delimiter"] true 1 args
  let mut head : Style := .none
  let mut body : Style := .filled
  let mut foot : Style := .none
  let mut m : Manner :=
    { style := fun _ => .none, mark := utf8 "\\:", first := 1, step := 1, restarts := !f.has "p"
      join := 1, separator := [0x09], width := 6, placement := .right }
  let mut wrong := false
  for g in f.given do
    let value := g.value.getD []
    let styleOf : String → Style → Work (Style × Bool) := fun what old => do
      match style? value with
      | .ok (some s) => return (s, true)
      | .ok none =>
        say (utf8 ("invalid " ++ what ++ " numbering style: ") ++ Quote.plain value)
        return (old, false)
      | .error e => fail 1 e
    match g.key with
    | "h" =>
      let (s, right) ← styleOf "header" head
      head := s
      if !right then wrong := true
    | "b" =>
      let (s, right) ← styleOf "body" body
      body := s
      if !right then wrong := true
    | "f" =>
      let (s, right) ← styleOf "footer" foot
      foot := s
      if !right then wrong := true
    | "v" => m := { m with first := ← number "starting line number" none value }
    | "i" => m := { m with step := ← number "line number increment" none value }
    | "l" =>
      m := { m with join := (← number "line number of blank lines" (some 1) value).toNat }
    | "s" => m := { m with separator := value }
    | "w" => m := { m with width := (← number "line number field width" (some 1) value).toNat }
    | "n" =>
      if value = utf8 "ln" then m := { m with placement := .left }
      else if value = utf8 "rn" then m := { m with placement := .right }
      else if value = utf8 "rz" then m := { m with placement := .zeros }
      else
        say (utf8 "invalid line numbering format: " ++ Quote.plain value)
        wrong := true
    | "d" => m := { m with mark := if value.length = 1 then value ++ [0x3A] else value }
    | _ => pure ()
  if wrong then refer 1
  let (h, b, t) := (head, body, foot)
  let style : Section → Style := fun part => match part with
    | .head => h
    | .body => b
    | .foot => t
  let _ ← foldFiles 0x0A (step { m with style := style }) ⟨.body, m.first, 0⟩ (inputsOf f.operands)

end CommandShell.Tool
