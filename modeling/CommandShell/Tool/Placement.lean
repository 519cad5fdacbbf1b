import CommandShell.Tool.Input
import CommandShell.Tool.Ownership
import CommandShell.Tool.Runner
import CommandShell.Tool.Transfer

/-!
# Putting files in place

Files are copied to where they are used, and get the permissions that are asked for. What stands at
the goal is taken away first. Directories can be made on the way, or by themselves.
-/

namespace CommandShell.Tool

open Work

namespace Placement

/-- How files are put in place. -/
structure Manner where
  /-- The permissions of files. -/
  mode : Nat
  /-- The permissions of directories that are asked for. -/
  directoryMode : Nat
  /-- Directories on the way are made. -/
  makesWay : Bool
  /-- Files that are the same already are left. -/
  compares : Bool
  /-- The program that takes away what is not needed to run a file, if that is asked for. -/
  stripper : Option Bytes
  /-- How the files are copied. -/
  copying : Transfer.Manner

/-- The permissions of directories and files if none are asked for. -/
def usualMode : Nat := 0o755

/-- Makes directories one after the other, as far as they are missing. The answer is whether all are
there. -/
def makeDirectories (verbose : Bool) : List Bytes → Work Bool
  | [] => return true
  | path :: rest => do
    match ← call (.change (.makeDirectory path)) with
    | .ok () =>
      if verbose then
        putLine ((← get).name ++ utf8 ": creating directory " ++ Quote.shell path)
      makeDirectories verbose rest
    | .error e =>
      match ← call (.facts path true) with
      | .ok f =>
        if f.kind = .directory then makeDirectories verbose rest
        else
          complainAbout notCreated path .notDirectory
          return false
      | .error _ =>
        complainAbout notCreated path e
        return false

/-- Makes a directory that is asked for, and gives it its permissions. -/
def makeDirectory (m : Manner) (path : Bytes) : Work Unit := do
  let verbose := m.copying.verbose
  if ← makeDirectories verbose (ancestors path) then
    match ← call (.change (.makeDirectory path)) with
    | .ok () =>
      if verbose then
        putLine ((← get).name ++ utf8 ": creating directory " ++ Quote.shell path)
      let _ ← call (.change (.setMode path m.directoryMode))
    | .error e =>
      if ← isDirectory path then
        let _ ← call (.change (.setMode path m.directoryMode))
      else complainAbout notCreated path e

/-- Whether a file at the goal has the content and the permissions that it would get. -/
def isInPlace (m : Manner) (source goal : Bytes) : Work Bool := do
  match ← call (.facts source false), ← call (.facts goal false) with
  | .ok f, .ok k =>
    let plain := fun (f : Facts) => f.kind = .file ∧ f.mode &&& 0o7000 = 0
    if plain f ∧ plain k ∧ f.size = k.size ∧ k.mode = m.mode ∧ m.mode &&& 0o7000 = 0 then
      match ← contentOf source, ← contentOf goal with
      | .ok a, .ok b => return a = b
      | _, _ => return false
    else return false
  | _, _ => return false

/-- Has a program take away what is not needed to run a file. The answer is whether it did. -/
def strip (program path : Bytes) : Work Bool := do
  let _ ← flush
  let named := if path.head? = some 0x2D then utf8 "./" ++ path else path
  let pid ← spawn do
    let e ← become [program, named] (← get).environment
    say (utf8 "cannot run " ++ Quote.shell program ++ utf8 (": " ++ e.libraryText))
    exit 1
  match ← call (.wait (some pid) none) with
  | .ok (some (_, .exited 0)) => return true
  | _ =>
    complain (utf8 "strip process terminated abnormally")
    return false

/-- Puts a file in place, after some others. -/
def place (m : Manner) (source goal : Bytes) (p : Transfer.Progress) : Work Transfer.Progress := do
  let settle : Work Unit := do
    match ← call (.change (.setMode goal m.mode)) with
    | .ok () => return ()
    | .error e => complainAbout "cannot change permissions of" goal e
  if m.compares then
    if ← isInPlace m source goal then
      settle
      return p
  if ← isDirectory source then
    complain (utf8 "omitting directory " ++ Quote.shell source)
    return p
  let q ← Transfer.transfer m.copying source goal 4096 true source goal { p with sources := [] }
  if q.goals.length = p.goals.length then return q
  match m.stripper with
  | some program =>
    if !(← strip program goal) then
      let _ ← call (.change (.unlink goal))
      return q
  | none => pure ()
  settle
  return q

/-- Puts files in place in a directory, one after the other. -/
def placeAll (m : Manner) (directory : Bytes) : List Bytes → Transfer.Progress → Work Unit
  | [], _ => return ()
  | source :: rest, p => do
    placeAll m directory rest (← place m source (Transfer.goalIn directory source) p)

/-- What the permissions are to be, for files and for directories. -/
def modesOf (text : Option Bytes) : Work (Nat × Nat) := do
  match text with
  | none => return (usualMode, usualMode)
  | some text =>
    match ModeClause.ofText? text with
    | some clauses =>
      return (ModeClause.applyAll 0 false 0 clauses, ModeClause.applyAll 0 true 0 clauses)
    | none => fail 1 (utf8 "invalid mode " ++ Quote.plain text)

/-- Looks for the directory that files are to go into, and puts them there. -/
def placeIn (m : Manner) (directory : Bytes) (sources : List Bytes) : Work Unit := do
  if m.makesWay then
    let first := Transfer.goalIn directory (sources.headD [])
    if !(← makeDirectories m.copying.verbose (ancestors first)) then
      placeAll m directory sources.tail .start
      stop
  placeAll m directory sources .start

end Placement

/-- Copies files to where they are used, and sets their permissions. -/
def install (args : List Bytes) : Work Unit := do
  let f ← Options.read (Backup.switches ++ [.flag "c" "", .flag "C" "compare",
    .flag "d" "directory", .flag "D" "", .valued "g" "group", .valued "m" "mode",
    .valued "o" "owner", .flag "p" "preserve-timestamps", .flag "s" "strip",
    .valued "" "strip-program", .valued "t" "target-directory", .flag "T" "no-target-directory",
    .flag "v" "verbose", ⟨"Z", "context", .optional⟩, .flag "" "preserve-context"]) true 1 args
  let directories := f.has "d"
  if 1 < (f.given.filter (·.key = "t")).length then
    fail 1 (utf8 "multiple target directories specified")
  if directories ∧ f.has "s" then
    fail 1 (utf8 "the strip option may not be used when installing a directory")
  let target := f.value? "t"
  if directories ∧ target.isSome then
    fail 1 (utf8 "target directory not allowed when installing a directory")
  let backup ← Backup.ofOptions f
  let one := directories || target.isSome
  match f.operands with
  | [] => misused 1 (utf8 "missing file operand")
  | [only] =>
    if !one then
      misused 1 (utf8 "missing destination file operand after " ++ Quote.shell only)
  | _ => pure ()
  let makesWay := f.has "D"
  let operands := f.operands
  let (target, sources) ←
    if f.has "T" then
      if target.isSome then
        fail 1 (utf8 "cannot combine --target-directory (-t) and --no-target-directory (-T)")
      if 2 < operands.length then extraOperand 1 ((operands[2]?).getD [])
      pure (none, operands)
    else
      match target with
      | some directory =>
        let found : Except Errno Facts ← call (.facts directory true)
        let why : Option Errno := match found with
          | .ok k => if k.kind = .directory then none else some .notDirectory
          | .error e => if makesWay ∧ e = .noEntry then none else some e
        match why with
        | some e => fail 1 (utf8 "failed to access " ++ Quote.shell directory ++
            utf8 (": " ++ e.libraryText))
        | none => pure (target, operands)
      | none =>
        if directories then pure (none, operands)
        else
          let last := operands.getLastD []
          let found : Except Errno Facts ← call (.facts last true)
          match found with
          | .ok k =>
            if k.kind = .directory then pure (some last, operands.dropLast)
            else
              if 2 < operands.length then
                fail 1 (utf8 "target " ++ Quote.shell last ++
                  utf8 (": " ++ Errno.notDirectory.libraryText))
              pure (none, operands)
          | .error e =>
            if 2 < operands.length then
              fail 1 (utf8 "target " ++ Quote.shell last ++ utf8 (": " ++ e.libraryText))
            pure (none, operands)
  let (mode, directoryMode) ← Placement.modesOf (f.value? "m")
  let program := f.value? "strip-program"
  if program.isSome ∧ !f.has "s" then
    say (utf8 "WARNING: ignoring --strip-program option as -s option was not specified")
  if f.has "C" ∧ f.has "p" then
    misused 1
      (utf8 "options --compare (-C) and --preserve-timestamps are mutually exclusive")
  if f.has "C" ∧ f.has "s" then
    misused 1 (utf8 "options --compare (-C) and --strip are mutually exclusive")
  if f.has "C" ∧ mode &&& 0o7000 ≠ 0 then
    say (utf8 ("the --compare (-C) option is ignored when you specify a mode with " ++
      "non-permission bits"))
  for (key, what) in [("o", "user"), ("g", "group")] do
    match f.value? key with
    | some name =>
      if !Ownership.isKnown name then fail 1 (utf8 s!"invalid {what} " ++ Quote.plain name)
    | none => pure ()
  let _ ← call (.mask 0o022)
  let copying : Transfer.Manner :=
    { moving := false, policy := .replace, forced := false, recursive := false
      throughOperands := true, throughOthers := true, keepsMode := false, usualMode := true
      keepsTimes := f.has "p", keepsNames := false, linking := none, withoutContent := false
      updating := false, backup := backup, clearing := true, keepsPath := false
      verbose := f.has "v" }
  let m : Placement.Manner :=
    { mode := mode, directoryMode := directoryMode, makesWay := makesWay, compares := f.has "C"
      stripper := if f.has "s" then some (program.getD (utf8 "strip")) else none
      copying := copying }
  if directories then
    for path in sources do Placement.makeDirectory m path
  else
    match target, sources with
    | some directory, _ => Placement.placeIn m directory sources
    | none, source :: goal :: _ =>
      if m.makesWay then
        if !(← Placement.makeDirectories (f.has "v") (ancestors goal)) then stop
      let _ ← Placement.place m source goal .start
    | none, _ => return ()

end CommandShell.Tool
