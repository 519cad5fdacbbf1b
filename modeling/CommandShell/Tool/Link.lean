import CommandShell.Tool.Backup
import CommandShell.Tool.Canonical

/-!
# Making links

A second name is made for a file, or a symbolic link that leads to it.
-/

namespace CommandShell.Tool

open Work

namespace Linking

/-- How links are made. -/
structure Manner where
  /-- They are symbolic links. -/
  symbolic : Bool
  /-- They take the place of what stood there. -/
  forced : Bool
  /-- It is asked before that. -/
  asking : Bool
  /-- What stood there is kept under another name. -/
  backup : Option Backup
  /-- They lead from where they stand. -/
  relative : Bool
  /-- It is the file that a link leads to that gets the name. -/
  logical : Bool
  /-- It is said what was made. -/
  verbose : Bool

/-- Whether a source is what stands where a link to it is to be, so that nothing would be left if
that was taken away. A symbolic link that takes the place of what was put aside does no harm. -/
def isItself (m : Manner) (source goal : Bytes) (old : Facts) : Work Bool := do
  if m.symbolic ∧ (m.backup.isSome ∨ !m.forced) then return false
  if !m.forced ∧ m.backup.isNone then return false
  match ← call (.facts source (m.symbolic || m.logical)) with
  | .ok f =>
    if f.location = old.location then
      return f.names = 1 || (← areSameEntry source goal)
    return false
  | .error _ => return false

/-- Takes away what stands where a link is to be, or puts it aside. The answer is whether the link
can be made, and where the old entry is then. -/
def clear (m : Manner) (source goal : Bytes) : Work (Bool × Option Bytes) := do
  match ← call (.facts goal false) with
  | .error _ => return (true, none)
  | .ok old =>
    if old.kind = .directory then
      complain (Quote.name goal ++ utf8 ": cannot overwrite directory")
      return (false, none)
    if ← isItself m source goal old then
      complain (Quote.shell source ++ utf8 " and " ++ Quote.shell goal ++
        utf8 " are the same file")
      return (false, none)
    if m.asking then
      if !(← agrees (utf8 "replace " ++ Quote.shell goal)) then
        return (false, none)
    match m.backup with
    | some b =>
      match ← b.putAside goal with
      | .ok path => return (true, some path)
      | .error e =>
        if e = .noEntry then return (true, none)
        complainAbout "cannot backup" goal e
        return (false, none)
    | none =>
      match ← call (.change (.unlink goal)) with
      | .ok () => return (true, none)
      | .error e =>
        complainAbout "cannot remove" goal e
        return (false, none)

/-- What is said about a link that is not made. -/
def notMade (m : Manner) (source goal : Bytes) (e : Errno) : Bytes :=
  let kind := if m.symbolic then "symbolic" else "hard"
  let briefly := if m.symbolic then e ≠ .nameTooLong ∧ source ≠ [] else
    e = .alreadyExists ∨ e = .noSpace
  utf8 ("failed to create " ++ kind ++ " link ") ++ Quote.shell goal ++
    (if briefly then [] else
      utf8 (if m.symbolic then " -> " else " => ") ++ Quote.shell source)

/-- The content of a symbolic link that leads from where it stands. -/
def contentFor (m : Manner) (source goal : Bytes) : Work Bytes := do
  if m.symbolic ∧ m.relative then
    match ← Canonical.ofPath .none true (frontOf goal), ← Canonical.ofPath .none true source with
    | .ok base, .ok place => return Canonical.relative base place
    | _, _ => return source
  else return source

/-- Makes a link. -/
def make (m : Manner) (source goal : Bytes) : Work Unit := do
  let facts : Except Errno Facts ←
    if m.symbolic then pure (.error .noEntry) else call (.facts source m.logical)
  match facts with
  | .error e =>
    if !m.symbolic then
      complainAbout "failed to access" source e
      return ()
  | .ok f =>
    if f.kind = .directory then
      complain (Quote.name source ++ utf8 ": hard link not allowed for directory")
      return ()
  let content ← contentFor m source goal
  let (free, aside) ←
    if m.forced ∨ m.asking ∨ m.backup.isSome then clear m source goal else pure (true, none)
  if free then
    let origin ←
      if m.logical ∧ !m.symbolic then
        match ← Canonical.ofPath .all true source with
        | .ok names => pure (Canonical.path names)
        | .error _ => pure source
      else pure source
    let change := if m.symbolic then Change.makeLink content goal else .addName origin goal
    match ← call (.change change) with
    | .ok () =>
      if m.verbose then
        let front := match aside with
          | some path => Quote.shell path ++ utf8 " ~ "
          | none => []
        putLine (front ++ Quote.shell goal ++ utf8 (if m.symbolic then " -> " else " => ") ++
          Quote.shell content)
    | .error e =>
      complainOf (notMade m source goal e) e
      match aside with
      | some path => let _ ← call (.change (.rename path goal))
      | none => pure ()

/-- Makes links in a directory. -/
def makeAll (m : Manner) (directory : Bytes) (sources : List Bytes) : Work Unit := do
  for source in sources do
    make m source (below directory (lastName source))

end Linking

/-- Whether a path leads to a directory, or why that cannot be said. -/
def checkDirectory (through : Bool) (path : Bytes) : Work (Except Errno Unit) := do
  match ← call (.facts path true) with
  | .error e => return .error e
  | .ok f =>
    if f.kind ≠ .directory then return .error .notDirectory
    else if through then return .ok ()
    else
      match ← call (.facts path false) with
      | .ok f => return if f.kind = .directory then .ok () else .error .notDirectory
      | .error e => return .error e

/-- Makes links. -/
def ln (args : List Bytes) : Work Unit := do
  let f ← Options.read (Backup.switches ++ [.flag "s" "symbolic", .flag "f" "force",
    .flag "i" "interactive", .flag "n" "no-dereference", .flag "r" "relative",
    .flag "v" "verbose", .valued "t" "target-directory", .flag "T" "no-target-directory",
    .flag "L" "logical", .flag "P" "physical", .flag "d" "directory", .flag "F" ""]) true 1 args
  let last := f.last? ["f", "i"]
  let m : Linking.Manner :=
    { symbolic := f.has "s", forced := last = some "f", asking := last = some "i"
      backup := none, relative := f.has "r", logical := f.last? ["L", "P"] = some "L"
      verbose := f.has "v" }
  let through := !f.has "n"
  let goals := f.given.filter (·.key = "t")
  if 1 < goals.length then fail 1 (utf8 "multiple target directories specified")
  let directory := f.value? "t"
  match directory with
  | none => pure ()
  | some path =>
    match ← call (.facts path true) with
    | .ok k =>
      if k.kind ≠ .directory then
        fail 1 (utf8 "target " ++ Quote.shell path ++ utf8 " is not a directory")
    | .error e =>
      complainAbout "failed to access" path e
      stop
  if f.operands = [] then misused 1 (utf8 "missing file operand")
  if m.relative ∧ !m.symbolic then fail 1 (utf8 "cannot do --relative without --symbolic")
  if directory.isSome ∧ f.has "T" then
    fail 1 (utf8 "cannot combine --target-directory and --no-target-directory")
  let m := { m with backup := ← Backup.ofOptions f }
  match directory with
  | some directory => Linking.makeAll m directory f.operands
  | none =>
    match f.operands with
    | [] => return ()
    | [source] =>
      if f.has "T" then
        misused 1 (utf8 "missing destination file operand after " ++ Quote.shell source)
      else Linking.make m source (below (utf8 ".") (lastName source))
    | [source, goal] =>
      let inside ← if f.has "T" then pure false
        else do
          match ← checkDirectory through goal with
          | .ok () => pure true
          | .error _ => pure false
      if inside then Linking.makeAll m goal [source] else Linking.make m source goal
    | sources =>
      let goal := sources.getLastD []
      if f.has "T" then extraOperand 1 ((sources[2]?).getD [])
      match ← checkDirectory through goal with
      | .ok () => Linking.makeAll m goal sources.dropLast
      | .error e => complainAbout "target" goal e

/-- Makes a second name for a file. -/
def link (args : List Bytes) : Work Unit := do
  let f ← Options.read [] true 1 args
  match f.operands with
  | [] => missingOperand 1
  | [only] => misused 1 (utf8 "missing operand after " ++ Quote.plain only)
  | [source, goal] =>
    match ← call (.change (.addName source goal)) with
    | .ok () => return ()
    | .error e =>
      complainOf (utf8 "cannot create link " ++ Quote.shell goal ++ utf8 " to " ++
        Quote.shell source) e
  | _ :: _ :: extra :: _ => extraOperand 1 extra

end CommandShell.Tool
