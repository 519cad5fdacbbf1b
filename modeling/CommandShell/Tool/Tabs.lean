import CommandShell.Tool.Input
import CommandShell.Tool.Words

/-!
# Tools for tabs

A tab goes as far as the next stop. Tabs are replaced by blanks that go as far, and blanks by tabs
that do.
-/

namespace CommandShell.Tool

open Work

/-- Where tabs go to. -/
structure TabStops where
  /-- The stops that are given, in order. -/
  columns : List Nat
  /-- Every multiple of this is a stop after them, if it is not zero. -/
  multiple : Nat
  /-- There is a stop at every so many columns after them, if it is not zero. -/
  step : Nat

namespace TabStops

/-- No stops. -/
def none : TabStops := ⟨[], 0, 0⟩

/-- The stops if none are given. -/
def usual : TabStops := ⟨[], 8, 0⟩

/-- The next stop after a column, if there is one. -/
def next? (s : TabStops) (column : Nat) : Option Nat :=
  match s.columns.find? (column < ·) with
  | some stop => some stop
  | .none =>
    let last := s.columns.getLast?.getD 0
    if s.multiple ≠ 0 then some (column + (s.multiple - column % s.multiple))
    else if s.step ≠ 0 then some (column + (s.step - (column - last) % s.step))
    else .none

/-- Adds a number, which may have a mark that stands for all stops after the others. -/
def add (s : TabStops) (mark : UInt8) (n : Nat) : Except Bytes TabStops :=
  match mark with
  | 0x2F =>
    if s.multiple ≠ 0 then .error (utf8 "'/' specifier only allowed with the last value")
    else .ok { s with multiple := n }
  | 0x2B =>
    if s.step ≠ 0 then .error (utf8 "'+' specifier only allowed with the last value")
    else .ok { s with step := n }
  | _ => .ok { s with columns := s.columns ++ [n] }

/-- Reads a list of stops. The digits of the number that is being read and the last mark are
given. -/
def read : Bytes → Bytes → UInt8 → TabStops → Except Bytes TabStops
  | [], digits, mark, s => if digits = [] then .ok s else s.add mark (Amount.count digits)
  | b :: rest, digits, mark, s =>
    if b = 0x2C ∨ b = 0x20 ∨ b = 0x09 then
      if digits = [] then read rest [] mark s
      else do read rest [] mark (← s.add mark (Amount.count digits))
    else if b = 0x2F ∨ b = 0x2B then
      if digits = [] then read rest [] b s
      else
        .error (utf8 "'" ++ [b] ++ utf8 "' specifier not at start of number: " ++
          Quote.plain (b :: rest))
    else if Amount.isDigit b then
      let digits := digits ++ [b]
      if Amount.greatest < Amount.count digits then
        .error (utf8 "tab stop is too large " ++
          Quote.plain (digits ++ rest.takeWhile Amount.isDigit))
      else read rest digits mark s
    else .error (utf8 "tab size contains invalid character(s): " ++ Quote.plain (b :: rest))

/-- What is wrong with stops. -/
def complaint? (s : TabStops) : Option String :=
  if s.columns.contains 0 then some "tab size cannot be 0"
  else if (s.columns.zip s.columns.tail).any fun p => p.2 ≤ p.1 then
    some "tab sizes must be ascending"
  else if s.multiple ≠ 0 ∧ s.step ≠ 0 then some "'/' specifier is mutually exclusive with '+'"
  else .none

/-- The stops that were meant: one number alone is their distance. -/
def normal (s : TabStops) : TabStops :=
  match s.columns with
  | [] => if s.multiple = 0 ∧ s.step = 0 then usual else s
  | [n] => if s.multiple = 0 ∧ s.step = 0 then { s with columns := [], multiple := n } else s
  | _ => s

/-- The stops of several lists. -/
def ofTexts (texts : List Bytes) : Work TabStops := do
  let read ← texts.foldlM (fun s text =>
    match read text [] 0 s with
    | .ok s => pure s
    | .error e => fail 1 e) none
  match read.complaint? with
  | some e => fail 1 (utf8 e)
  | .none => return read.normal

end TabStops

/-- Whether an argument is a list of stops after a dash. -/
def isTabList (arg : Bytes) : Bool :=
  match arg with
  | 0x2D :: b :: rest => Amount.isDigit b && rest.all fun c => Amount.isDigit c || c = 0x2C
  | _ => false

/-- The lists of stops in arguments that are lists, and after options. -/
def tabLists (direct : List Bytes) (f : Options.Found) : List Bytes :=
  direct.map (·.tail) ++ f.given.filterMap fun g => if g.key = "t" then g.value else none

/-! ### Blanks in place of tabs -/

/-- How far a line has come. -/
structure Advance where
  /-- The column. -/
  column : Nat
  /-- Whether tabs are still replaced. -/
  active : Bool

namespace Advance

/-- The start of a line. -/
def start : Advance := ⟨0, true⟩

/-- A byte of a line, with blanks in place of a tab. -/
def expand (s : TabStops) (everywhere : Bool) (a : Advance) (b : UInt8) : Advance × Bytes :=
  if !a.active then (a, [b])
  else
    let goes := everywhere || b = 0x20 || b = 0x09
    match b with
    | 0x09 =>
      let goal := (s.next? a.column).getD (a.column + 1)
      (⟨goal, goes⟩, List.replicate (goal - a.column) 0x20)
    | 0x08 => (⟨a.column - 1, goes⟩, [b])
    | _ => (⟨a.column + 1, goes⟩, [b])

end Advance

/-- Writes files with blanks in place of tabs. -/
def expand (args : List Bytes) : Work Unit := do
  let front := args.takeWhile (· ≠ utf8 "--")
  let words := front.flatMap fun a => if isTabList a then [utf8 "-t", a.tail] else [a]
  let f ← Options.read [.flag "i" "initial", .valued "t" "tabs"] true 1
    (words ++ args.drop front.length)
  let stops ← TabStops.ofTexts (tabLists [] f)
  let line := fun (a : Advance) (l : TextLine) => do
    let (a, parts) := l.bytes.foldl (fun (state : Advance × List Bytes) b =>
      let (a, part) := state.1.expand stops (!f.has "i") b
      (a, part :: state.2)) (a, [])
    put parts.reverse.flatten
    if l.ended then
      put [0x0A]
      return Advance.start
    else return a
  let _ ← foldFiles 0x0A line Advance.start (inputsOf f.operands)

/-! ### Tabs in place of blanks -/

/-- How far a line has come in which blanks are replaced. -/
structure Gathering where
  /-- The column. -/
  column : Nat
  /-- Whether blanks are still replaced. -/
  active : Bool
  /-- Blanks that are not yet written. -/
  pending : Bytes
  /-- Whether the first of them stands alone just before a stop. -/
  lone : Bool
  /-- Whether a blank, or nothing, stands before this column. -/
  afterBlank : Bool

namespace Gathering

/-- The start of a line. -/
def start : Gathering := ⟨0, true, [], false, true⟩

/-- What is written of the blanks that are not yet written. -/
def held (g : Gathering) : Bytes :=
  match g.pending with
  | _ :: b :: rest => if g.lone then 0x09 :: b :: rest else g.pending
  | _ => g.pending

/-- A byte that is written after the blanks before it. -/
def pass (g : Gathering) (everywhere : Bool) (b : UInt8) : Gathering × Bytes :=
  let blank := b = 0x20 || b = 0x09
  ({ g with pending := [], lone := false, afterBlank := blank
            active := g.active && (everywhere || blank) }, g.held ++ [b])

/-- A byte of a line, with tabs in place of blanks. -/
def unexpand (s : TabStops) (everywhere : Bool) (g : Gathering) (b : UInt8) : Gathering × Bytes :=
  if !g.active then (g, [b])
  else if b = 0x20 ∨ b = 0x09 then
    match s.next? g.column with
    | none => { g with active := false }.pass everywhere b
    | some stop =>
      if b = 0x20 ∧ !(g.afterBlank ∧ g.column + 1 = stop) then
        ({ g with column := g.column + 1, lone := g.lone || g.column + 1 = stop
                  pending := g.pending ++ [b], afterBlank := true }, [])
      else
        let kept : Bytes := if g.lone then [0x09] else []
        { g with column := if b = 0x09 then stop else g.column + 1, pending := kept }.pass
          everywhere 0x09
  else { g with column := if b = 0x08 then g.column - 1 else g.column + 1 }.pass everywhere b

end Gathering

/-- Writes files with tabs in place of blanks. -/
def unexpand (args : List Bytes) : Work Unit := do
  let (direct, args) := args.partition isTabList
  let f ← Options.read [.flag "a" "all", .valued "t" "tabs", .flag "" "first-only"] true 1 args
  let stops ← TabStops.ofTexts (tabLists direct f)
  let everywhere := (f.has "a" || f.has "t") && !f.has "first-only"
  let line := fun (g : Gathering) (l : TextLine) => do
    let (g, parts) := l.bytes.foldl (fun (state : Gathering × List Bytes) b =>
      let (g, part) := state.1.unexpand stops everywhere b
      (g, part :: state.2)) (g, [])
    put parts.reverse.flatten
    if l.ended then
      put (g.held ++ [0x0A])
      return Gathering.start
    else return g
  let g ← foldFiles 0x0A line Gathering.start (inputsOf f.operands)
  put g.held

end CommandShell.Tool
