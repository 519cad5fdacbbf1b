import CommandShell.Tool.Directory

/-!
# Changing permissions

The permissions of files are changed as a text says, also of all that is in directories. What was
changed can be told.
-/

namespace CommandShell.Tool

open Work

namespace Permission

/-- How permissions are changed. -/
structure Manner where
  /-- What is done to them. -/
  clauses : List ModeClause
  /-- Whether the text stood among the options. -/
  asOption : Bool
  /-- The permissions that new files do not get. -/
  mask : Nat
  /-- All that is in directories is changed as well. -/
  recursive : Bool
  /-- Most complaints are left out. -/
  silent : Bool
  /-- It is told what was done. -/
  verbose : Bool
  /-- It is told what was changed. -/
  tellsChanges : Bool

/-- Nine letters for the permissions of a mode. -/
def letters (mode : Nat) : Bytes :=
  let bit := fun (n : Nat) (letter : UInt8) => if mode &&& n = 0 then (0x2D : UInt8) else letter
  let run := fun (n special : Nat) (both only : UInt8) =>
    if mode &&& special = 0 then bit n 0x78 else if mode &&& n = 0 then only else both
  [bit 0o400 0x72, bit 0o200 0x77, run 0o100 0o4000 0x73 0x53,
   bit 0o040 0x72, bit 0o020 0x77, run 0o010 0o2000 0x73 0x53,
   bit 0o004 0x72, bit 0o002 0x77, run 0o001 0o1000 0x74 0x54]

/-- A mode as a number and as letters. -/
def shown (mode : Nat) : Bytes :=
  let digits := Text.Format.digits 8 false mode
  List.replicate (4 - digits.length) (0x30 : UInt8) ++ digits ++ utf8 " (" ++ letters mode ++
    utf8 ")"

/-- Tells what became of the permissions of a file. -/
def tell (m : Manner) (path : Bytes) (old new : Nat) : Work Unit := do
  if old ≠ new then
    if m.verbose ∨ m.tellsChanges then
      putLine (utf8 "mode of " ++ Quote.shell path ++ utf8 " changed from " ++ shown old ++
        utf8 " to " ++ shown new)
  else if m.verbose then
    putLine (utf8 "mode of " ++ Quote.shell path ++ utf8 " retained as " ++ shown new)

/-- Changes the permissions of a file. -/
def change (m : Manner) : Nat → Bool → Bytes → Work Unit
  | 0, _, _ => return ()
  | fuel + 1, top, path => do
    let facts : Except Errno Facts ← call (.facts path top)
    match facts with
    | .error e =>
      let entry : Except Errno Facts ← call (.facts path false)
      let dangling : Bool := entry.isOk && e = .noEntry
      if m.silent then fault 1
      else if dangling then
        complain (utf8 "cannot operate on dangling symlink " ++ Quote.shell path)
      else complainAbout "cannot access" path e
      if m.verbose then
        putLine (Quote.shell path ++ utf8 " could not be accessed")
    | .ok f =>
      if f.kind = .link then return ()
      let directory := f.kind = .directory
      let old := f.mode
      let new := ModeClause.applyAll m.mask directory old m.clauses
      let done : Except Errno Unit ← call (.change (.setMode path new))
      match done with
      | .error e =>
        if m.silent then fault 1 else complainAbout "changing permissions of" path e
      | .ok () =>
        tell m path old new
        let expected := ModeClause.applyAll 0 directory old m.clauses
        if m.asOption ∧ ModeClause.without new expected ≠ 0 then
          complain (Quote.name path ++ utf8 ": new permissions are " ++ letters new ++
            utf8 ", not " ++ letters expected)
      if m.recursive ∧ directory then
        match ← call (.children path) with
        | .error e => complainAbout "cannot read directory" path e
        | .ok children =>
          for c in children do
            change m fuel false (below path c.1)

/-- Whether an argument is a change of permissions that looks like an option. -/
def isModeOption (arg : Bytes) : Bool :=
  match arg with
  | 0x2D :: b :: _ => (utf8 "rwxXstugoa,+=01234567").contains b
  | _ => false

end Permission

/-- Changes the permissions of files. -/
def chmod (args : List Bytes) : Work Unit := do
  let front := args.takeWhile (· ≠ utf8 "--")
  let modes := front.filter Permission.isModeOption
  let others := front.filter (!Permission.isModeOption ·) ++ args.drop front.length
  let f ← Options.read [.flag "R" "recursive", .flag "c" "changes", .flag "f" "silent",
    .flag "f" "quiet", .flag "v" "verbose", .valued "" "reference", .flag "" "preserve-root",
    .flag "" "no-preserve-root"] true 1 others
  let reference := f.value? "reference"
  if reference.isSome ∧ modes ≠ [] then
    misused 1 (utf8 "cannot combine mode and --reference options")
  let (text, paths) : Option Bytes × List Bytes :=
    if reference.isSome then (none, f.operands)
    else if modes ≠ [] then (some ([0x2C].intercalate modes), f.operands)
    else (f.operands.head?, f.operands.tail)
  if paths = [] then
    match text with
    | some mode =>
      if modes = [] then misused 1 (utf8 "missing operand after " ++ Quote.plain mode)
      else missingOperand 1
    | none => missingOperand 1
  let clauses ← match reference with
    | some path =>
      match ← call (.facts path true) with
      | .ok k => pure [⟨0x3D, ModeClause.everything, k.mode, .given, ModeClause.everything⟩]
      | .error e =>
        complainAbout "failed to get attributes of" path e
        stop
    | none =>
      match ModeClause.ofText? (text.getD []) with
      | some cs => pure cs
      | none => misused 1 (utf8 "invalid mode: " ++ Quote.plain (text.getD []))
  let mask ← currentMask
  let told := f.last? ["c", "v"]
  let m : Permission.Manner :=
    { clauses := clauses, asOption := modes ≠ [], mask := mask, recursive := f.has "R"
      silent := f.has "f", verbose := told = some "v", tellsChanges := told = some "c" }
  for path in paths do
    Permission.change m 4096 true path

end CommandShell.Tool
