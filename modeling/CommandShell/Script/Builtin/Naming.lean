import CommandShell.Script.Builtin.Directory

/-!
# Commands of the shell about names

What would be executed under a name: a keyword, an abbreviation, a function, a command of the shell
or a program. The programs that were found are kept, and can be written or forgotten.
-/

namespace CommandShell.Script

namespace Act

/-- The file of a program in one of the directories of a search path, or at a path. -/
def programPath? (name : Bytes) (path : Option Bytes) : Act (Option Bytes) := do
  if name.contains slash then
    match ← call (.facts name true) with
    | .ok _ => return some name
    | .error _ => return none
  else
    let path ← match path with
      | some p => pure p
      | none => searchPath
    match ← locateIn .noEntry (candidates path name) with
    | .ok path => return some path
    | .error _ => return none

/-- Writes what a name stands for, with or without words about it. -/
def describe (name : Bytes) (path : Option Bytes) (verbose : Bool) : Act Nat := do
  let s ← get
  let tell : String → Bytes → Act Nat := fun words brief => do
    say (if verbose then name ++ utf8 (words ++ "\n") else brief ++ [0x0A])
    return 0
  if (Keyword.ofBytes? name).isSome then tell " is a shell keyword" name
  else
    match s.aliases.lookup name with
    | some text =>
      if verbose then say (name ++ utf8 " is an alias for " ++ text ++ [0x0A])
      else say (utf8 "alias " ++ name ++ 0x3D :: quote text ++ [0x0A])
      return 0
    | none =>
      if path.isNone ∧ (s.functions.lookup name).isSome then tell " is a shell function" name
      else
        match builtin? name with
        | some k =>
          tell (if k.special then " is a special shell builtin" else " is a shell builtin") name
        | none =>
          match if path.isNone then s.found.lookup name else none with
          | some place =>
            say (if verbose then name ++ utf8 " is a tracked alias for " ++ place ++ [0x0A]
              else place ++ [0x0A])
            return 0
          | none =>
            match ← programPath? name path with
            | some place =>
              say (if verbose then name ++ utf8 " is " ++ place ++ [0x0A] else place ++ [0x0A])
              return 0
            | none =>
              if verbose then say (name ++ utf8 ": not found\n")
              return 127

/-- Writes what names stand for. -/
def type_ (args : List Bytes) : Act Nat := do
  let mut status := 0
  for name in args do
    status := status ||| (← describe name none true)
  return status

/-- The search path with the programs of the system. -/
def systemPath : Bytes :=
  utf8 "/usr/local/sbin:/usr/local/bin:/usr/sbin:/usr/bin:/sbin:/bin"

/-- Writes what a name stands for, if asked to. -/
def command (args : List Bytes) : Act Nat := do
  let (letters, words) ← options "pvV" args
  let asked := letters.filter fun l => l.1 ≠ 0x70
  let path := if letters.any fun l => l.1 = 0x70 then some systemPath else none
  match asked.getLast?, words with
  | some l, name :: _ => describe name path (l.1 = 0x56)
  | _, _ => return 0

/-- Programs in the order in which they are shown. -/
def foundInOrder (found : List (Bytes × Bytes)) : List (Bytes × Bytes) :=
  let bucket := fun (name : Bytes) =>
    name.foldl (fun n b => n + b.toNat) (((name.head?.map (·.toNat)).getD 0) * 16) % 31
  found.mergeSort fun a b => bucket a.1 ≤ bucket b.1

/-- Writes or forgets the programs that were found, or looks for some. -/
def hash (args : List Bytes) : Act Nat := do
  let (letters, words) ← options "r" args
  if letters ≠ [] then
    modify fun s => { s with found := [] }
    return 0
  if words = [] then
    for f in foundInOrder (← get).found do
      say (f.2 ++ [0x0A])
    return 0
  let mut status := 0
  for name in words do
    modify fun s => { s with found := s.found.filter (·.1 ≠ name) }
    match ← find name true none with
    | .nothing e =>
      warn (name ++ utf8 ": " ++ reason "not found" e)
      status := 1
    | _ => pure ()
  return status

end Act

end CommandShell.Script
