import CommandShell.Tool.Options
import CommandShell.Tool.Words

/-!
# Putting files aside

What stands where something else is to be can be kept under another name in the same directory: its
own with a suffix, or its own with the next number that is free.
-/

namespace CommandShell.Tool

open Work

/-- The entry that a path names, as the place of its directory with its name. -/
def entryOf? (path : Bytes) : Work (Option Path) := do
  match ← call (.facts (frontOf path) true) with
  | .ok d => return some (d.location ++ [lastName path])
  | .error _ => return none

/-- Whether two paths name the same entry of the same directory. -/
def areSameEntry (a b : Bytes) : Work Bool := do
  match ← entryOf? a, ← entryOf? b with
  | some x, some y => return x = y
  | _, _ => return false

/-- Which names are given to what is put aside. -/
inductive Backup.Style where
  /-- The name with the suffix. -/
  | simple
  /-- The name with a number. -/
  | numbered
  /-- The name with a number if there is such a name already, and with the suffix otherwise. -/
  | existing
deriving DecidableEq

/-- How something is put aside. -/
structure Backup where
  /-- Which name it gets. -/
  style : Backup.Style
  /-- The suffix of a name without a number. -/
  suffix : Bytes

namespace Backup

/-- The options that say how something is put aside. -/
def switches : List Switch :=
  [.flag "b" "", ⟨"b", "backup", .optional⟩, .valued "S" "suffix"]

/-- The suffix that is used if no other is given, or one that is no part of a name. -/
def usualSuffix : Bytes := utf8 "~"

/-- What options say, if anything is to be put aside at all. -/
def ofOptions (f : Options.Found) : Work (Option Backup) := do
  if !f.has "b" ∧ !f.has "S" then return none
  let given := f.given.reverse.findSome? fun g => if g.key = "b" then g.value else none
  let suffix := match f.value? "S" with
    | some s => if s = [] ∨ s.contains slash then usualSuffix else s
    | none => usualSuffix
  match given with
  | none | some [] => return some ⟨.existing, suffix⟩
  | some value =>
    let style ← Options.choice "backup type"
      [["none", "off"], ["simple", "never"], ["existing", "nil"], ["numbered", "t"]] value
    return match style with
    | "none" => none
    | "simple" => some ⟨.simple, suffix⟩
    | "existing" => some ⟨.existing, suffix⟩
    | _ => some ⟨.numbered, suffix⟩

/-- The number that makes a name out of another. -/
def number? (name : Bytes) (made : Bytes) : Option Nat :=
  let front := name ++ utf8 ".~"
  let digits := (made.drop front.length).dropLast
  if front.isPrefixOf made ∧ made = front ++ digits ++ utf8 "~" ∧ digits ≠ [] ∧
      digits.head? ≠ some 0x30 ∧ digits.all fun c => 0x30 ≤ c ∧ c ≤ 0x39 then
    some (digits.foldl (fun n c => 10 * n + (c.toNat - 0x30)) 0)
  else none

/-- The path under which the entry at a path is kept. -/
def pathFor (b : Backup) (path : Bytes) : Work Bytes := do
  if b.style = .simple then return path ++ b.suffix
  let listed : Except Errno (List (Name × Kind)) ← call (.children (frontOf path))
  let numbers := (listed.toOption.getD []).filterMap fun e => number? (lastName path) e.1
  if b.style = .existing ∧ numbers = [] then return path ++ b.suffix
  return path ++ utf8 (".~" ++ toString (numbers.foldl max 0 + 1) ++ "~")

/-- Puts the entry at a path aside. The answer is where it is then. -/
def putAside (b : Backup) (path : Bytes) : Work (Except Errno Bytes) := do
  let kept ← b.pathFor path
  match ← call (.change (.rename path kept)) with
  | .ok () => return .ok kept
  | .error e => return .error e

end Backup

end CommandShell.Tool
