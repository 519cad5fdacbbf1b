import CommandShell.Files.Mode
import CommandShell.Script.Builtin.Variables

/-!
# Commands of the shell about directories and files

The shell keeps the way to its directory as it was named, links and all, and offers the directory
itself on request. The permissions that new files do not get are set here as well.
-/

namespace CommandShell.Script

namespace Act

/-! ### The directory -/

/-- The way to a directory from another one: names that lead up cancel names before them. -/
def way (front directory : Bytes) : Bytes :=
  let isAbsolute := directory.head? = some slash
  let doubled : Bool := match if isAbsolute then directory else front with
    | 0x2F :: 0x2F :: b :: _ => b ≠ slash
    | [0x2F, 0x2F] => true
    | _ => false
  let names := ((if isAbsolute then [] else front) ++ slash :: directory).splitOn slash
  let kept := names.foldl (fun (done : List Bytes) n =>
    if n = [] ∨ n = [0x2E] then done
    else if n = [0x2E, 0x2E] then done.tail
    else n :: done) []
  (if doubled then [slash, slash] else [slash]) ++ [slash].intercalate kept.reverse

/-- The directory that the process is in. If it is not there any more, that is worth a complaint. -/
def currentDirectory : Act Bytes := do
  match ← call .directory with
  | .ok path => return path
  | .error e =>
    warn (utf8 ("getcwd() failed: " ++ e.libraryText))
    return []

/-- Takes note of a directory. -/
def setDirectory (named : Option Bytes) (keepsOld : Bool) : Act Unit := do
  let old := (← get).directory
  if keepsOld then setVariable (utf8 "OLDPWD") old true
  let directory ← match named with
    | some d => pure d
    | none => currentDirectory
  modify fun s => { s with directory := directory }
  setVariable (utf8 "PWD") directory true

/-- Goes to a directory; the answer is whether that went well. -/
def goTo (physical : Bool) (goal : Bytes) : Act Bool := do
  let front := (← get).directory
  let named :=
    if physical ∨ (front = [] ∧ goal.head? ≠ some slash) then none else some (way front goal)
  match ← call (.enter (named.getD goal)) with
  | .ok () =>
    setDirectory named true
    return true
  | .error _ => return false

/-- Whether a path is not looked for in several directories. -/
def isPlaced (goal : Bytes) : Bool :=
  goal.head? = some slash || goal = [0x2E] || goal = [0x2E, 0x2E] ||
    (utf8 "./").isPrefixOf goal || (utf8 "../").isPrefixOf goal

/-- The first of some directories that is there. -/
def firstDirectory : List (Bytes × Bool) → Act (Option (Bytes × Bool))
  | [] => return none
  | (path, elsewhere) :: rest => do
    match ← call (.facts path true) with
    | .ok f => if f.kind = .directory then return some (path, elsewhere) else firstDirectory rest
    | .error _ => firstDirectory rest

/-- Whether the last letter of some options asks for the directory itself. -/
def asksPhysical (letters : List (UInt8 × Bytes)) : Bool :=
  letters.getLast?.map (·.1) = some 0x50

/-- Goes to a directory. -/
def cd (args : List Bytes) : Act Nat := do
  let (letters, words) ← options "LP" args
  let s ← get
  let (goal, back) := match words with
    | [] => (s.setting "HOME", false)
    | word :: _ => if word = [0x2D] then (s.setting "OLDPWD", true) else (word, false)
  let places : List (Bytes × Bool) :=
    if isPlaced goal then [(goal, false)]
    else
      let goal := if goal = [] then [0x2E] else goal
      ((s.setting "CDPATH").splitOn 0x3A).map fun d =>
        if d = [] then (goal, false) else (d ++ slash :: goal, true)
  let found ← if isPlaced goal then pure places.head? else firstDirectory places
  let (path, elsewhere) := found.getD (goal, false)
  if ← goTo (asksPhysical letters) path then
    if back ∨ elsewhere then say ((← get).directory ++ [0x0A])
    return 0
  else fail (utf8 "can't cd to " ++ goal)

/-- Writes the directory. -/
def pwd (args : List Bytes) : Act Nat := do
  let (letters, _) ← options "LP" args
  let path ← if asksPhysical letters then currentDirectory else pure (← get).directory
  say (path ++ [0x0A])
  return 0

/-! ### Permissions -/

/-- The permissions that a mask leaves, for three letters in front. -/
def shownMask (mask : Nat) : Bytes :=
  let part := fun (letter : String) (shift : Nat) =>
    let bit := fun (n : Nat) (s : String) => if (mask >>> shift) &&& n = 0 then s else ""
    letter ++ "=" ++ bit 4 "r" ++ bit 2 "w" ++ bit 1 "x"
  utf8 (part "u" 6 ++ "," ++ part "g" 3 ++ "," ++ part "o" 0 ++ "\n")

/-- Writes or sets the permissions that new files do not get. -/
def umask (args : List Bytes) : Act Nat := do
  let (letters, words) ← options "S" args
  let mask : Nat ← call (.mask 0)
  let _ ← call (.mask mask)
  let set_ : Nat → Act Nat := fun n => do
    let _ ← call (.mask (n &&& 0o777))
    return 0
  match words with
  | [] =>
    if letters = [] then
      let digits := Text.Format.digits 8 false mask
      say (List.replicate (4 - digits.length) (0x30 : UInt8) ++ digits ++ [0x0A])
    else say (shownMask mask)
    return 0
  | word :: _ =>
    if (word.head?.map Word.isDigit).getD false then
      if !word.all ModeClause.isDigit then fail (utf8 "Illegal number: " ++ word)
      set_ (Arithmetic.numberOf 8 word)
    else
      match ModeClause.ofText? word with
      | none => fail (utf8 "Illegal mode: " ++ word)
      | some clauses =>
        set_ (0o777 ^^^ (ModeClause.applyAll 0 false (0o777 ^^^ mask) clauses &&& 0o777))

end Act

end CommandShell.Script
