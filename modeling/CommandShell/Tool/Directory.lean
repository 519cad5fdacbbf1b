import CommandShell.Files.Mode
import CommandShell.Tool.Words

/-!
# Making and removing directories

Directories are made one by one, or with all that are missing on the way to them. They are removed
if they have no entries.
-/

namespace CommandShell.Tool

open Work

/-- Whether a path leads to a directory. -/
def isDirectory (path : Bytes) : Work Bool := do
  match ← call (.facts path true) with
  | .ok f => return f.kind = .directory
  | .error _ => return false

/-- The paths of the directories on the way to a path, from the first on. -/
def ancestors (path : Bytes) : List Bytes :=
  go (path.length + 1) (path.takeWhile (· = slash)) (path.dropWhile (· = slash))
where
  /-- The paths after what is passed. -/
  go : Nat → Bytes → Bytes → List Bytes
    | 0, _, _ => []
    | fuel + 1, passed, rest =>
      let name := rest.takeWhile (· ≠ slash)
      let after := rest.drop name.length
      let slashes := after.takeWhile (· = slash)
      let more := after.drop slashes.length
      if more = [] then []
      else (passed ++ name) :: go fuel (passed ++ name ++ slashes) more

/-- Says that a directory was made. -/
def sayCreated (verbose : Bool) (path : Bytes) : Work Unit := do
  if verbose then
    putLine ((← get).name ++ utf8 ": created directory " ++ Quote.shell path)

/-- What is said about a directory that is not made. -/
def notCreated : String := "cannot create directory"

/-- Makes the directories on the way to a path that are missing. The answer is whether all are
there. -/
def makeAncestors (verbose : Bool) : List Bytes → Work Bool
  | [] => return true
  | path :: rest => do
    match ← call (.change (.makeDirectory path)) with
    | .ok () =>
      sayCreated verbose path
      makeAncestors verbose rest
    | .error e =>
      match ← call (.facts path true) with
      | .ok f =>
        if f.kind = .directory then makeAncestors verbose rest
        else
          complainAbout notCreated path .notDirectory
          return false
      | .error _ =>
        complainAbout notCreated path e
        return false

/-- The permissions that new files do not get. -/
def currentMask : Work Nat := do
  let mask : Nat ← call (.mask 0)
  let _ ← call (.mask mask)
  return mask

/-- Makes the directories on the way to a path that are missing, so that entries can be made in each
of them. The answer is whether all are there. -/
def makeWay (verbose : Bool) (path : Bytes) : Work Bool := do
  let mask ← currentMask
  let _ ← call (.mask (ModeClause.without mask 0o300))
  let reached ← makeAncestors verbose (ancestors path)
  let _ ← call (.mask mask)
  return reached

/-- Makes directories. -/
def mkdir (args : List Bytes) : Work Unit := do
  let f ← Options.read [.flag "p" "parents", .valued "m" "mode", .flag "v" "verbose",
    ⟨"Z", "context", .optional⟩] true 1 args
  if f.operands = [] then missingOperand 1
  let mode ← match f.value? "m" with
    | some text =>
      match ModeClause.ofText? text with
      | some clauses => pure (some (ModeClause.applyAll (← currentMask) true 0o777 clauses))
      | none => fail 1 (utf8 "invalid mode " ++ Quote.plain text)
    | none => pure none
  for path in f.operands do
    let reached ← if f.has "p" then makeWay (f.has "v") path else pure true
    if reached then
      match ← call (.change (.makeDirectory path)) with
      | .ok () =>
        sayCreated (f.has "v") path
        match mode with
        | some m => let _ ← call (.change (.setMode path m))
        | none => pure ()
      | .error e =>
        let there ← if f.has "p" then isDirectory path else pure false
        if !there then complainAbout notCreated path e

/-- Removes a directory. The answer is whether it is gone. -/
def removeOne (verbose tolerant : Bool) (what : String) (path : Bytes) : Work Bool := do
  if verbose then putLine ((← get).name ++ utf8 ": removing directory, " ++ Quote.shell path)
  match ← call (.change (.removeDirectory path)) with
  | .ok () => return true
  | .error e =>
    if tolerant ∧ e = .notEmpty then return false
    let linked ← if e = .notDirectory ∧ path.getLast? = some slash then do
        match ← call (.facts (withoutSlashes path) false) with
        | .ok f => pure (f.kind = .link && (← isDirectory path))
        | .error _ => pure false
      else pure false
    if linked then
      complain (utf8 (what ++ " ") ++ Quote.shell path ++ utf8 ": Symbolic link not followed")
    else complainAbout what path e
    return false

/-- Removes directories, one after the other as long as that is possible. -/
def removeParents (verbose tolerant : Bool) : List Bytes → Work Unit
  | [] => return ()
  | path :: rest => do
    if ← removeOne verbose tolerant "failed to remove directory" path then
      removeParents verbose tolerant rest

/-- Removes directories without entries. -/
def rmdir (args : List Bytes) : Work Unit := do
  let f ← Options.read [.flag "p" "parents", .flag "v" "verbose",
    .flag "" "ignore-fail-on-non-empty"] true 1 args
  if f.operands = [] then missingOperand 1
  let tolerant := f.has "ignore-fail-on-non-empty"
  for path in f.operands do
    let gone ← removeOne (f.has "v") tolerant "failed to remove" path
    if gone ∧ f.has "p" then
      removeParents (f.has "v") tolerant (ancestors (withoutSlashes path)).reverse

end CommandShell.Tool
