import CommandShell.Tool.Backup
import CommandShell.Tool.Canonical
import CommandShell.Tool.Directory

/-!
# Copying and moving files

Files are copied or moved to a path, or into a directory under their names. A directory is copied
with all that is in it. What stands at the goal is replaced if it is of the same kind.
-/

namespace CommandShell.Tool

open Work

namespace Transfer

/-- What is done about files that stand at the goal. -/
inductive Policy where
  /-- They are replaced. -/
  | replace
  /-- It is asked. -/
  | ask
  /-- They are kept. -/
  | keep
deriving DecidableEq

/-- How files are copied or moved. -/
structure Manner where
  /-- They are moved. -/
  moving : Bool
  /-- What is done about files at the goal. -/
  policy : Policy
  /-- Files at the goal that cannot be written to are replaced. -/
  forced : Bool
  /-- Directories are copied. -/
  recursive : Bool
  /-- What links among the operands lead to is copied. -/
  throughOperands : Bool
  /-- What other links lead to is copied. -/
  throughOthers : Bool
  /-- Permissions are kept as they are. -/
  keepsMode : Bool
  /-- New files get the permissions of any new file. -/
  usualMode : Bool
  /-- Times are kept as they are. -/
  keepsTimes : Bool
  /-- Names of one file become names of one copy. -/
  keepsNames : Bool
  /-- Links are made in place of copies: symbolic ones or second names. -/
  linking : Option Bool
  /-- Only permissions are copied. -/
  withoutContent : Bool
  /-- Files at the goal are kept if they are not older. -/
  updating : Bool
  /-- Files at the goal are kept under another name. -/
  backup : Option Backup
  /-- Files at the goal are taken away first. -/
  clearing : Bool
  /-- Copies in a directory have the whole paths of the operands. -/
  keepsPath : Bool
  /-- It is told what is done. -/
  verbose : Bool

/-- Whether no links are followed. -/
def Manner.staysAtLinks (m : Manner) : Bool :=
  m.moving || (!m.throughOperands && !m.throughOthers)

/-- What a path names: its entry, and where the file stands. -/
abbrev Mark := Option Path × Path

/-- What has been done so far. -/
structure Progress where
  /-- The operands that were copied. -/
  sources : List Mark
  /-- What they have become. -/
  goals : List Mark
  /-- The place of the first directory that was made for the operand. -/
  made : Option Path
  /-- The first copies of files that may have other names. -/
  copies : List (Path × Bytes)

/-- The progress at the beginning. -/
def Progress.start : Progress := ⟨[], [], none, []⟩

/-- What a path names, of which the facts are known. -/
def markOf (path : Bytes) (f : Facts) : Work Mark := do
  return (← entryOf? path, f.location)

/-- The progress when an operand has become what a path names. -/
def Progress.reached (p : Progress) (goal : Bytes) : Work Progress := do
  match ← call (.facts goal false) with
  | .ok k => return { p with goals := (← markOf goal k) :: p.goals }
  | .error _ => return p

/-- Two paths with what stands between them. -/
def between (a : Bytes) (text : String) (b : Bytes) : Bytes :=
  Quote.shell a ++ utf8 text ++ Quote.shell b

/-- Tells what is copied or moved to where, and where what was there has gone. -/
def tell (m : Manner) (source goal : Bytes) (aside : Option Bytes) : Work Unit := do
  if m.verbose then
    let front := if m.moving then utf8 "renamed " else []
    let kept := match aside with
      | some path => utf8 " (backup: " ++ Quote.shell path ++ utf8 ")"
      | none => []
    putLine (front ++ between source " -> " goal ++ kept)

/-- Takes away what stands at the goal. The answer is whether nothing stands there then. -/
def takeAway (m : Manner) (goal : Bytes) : Work Bool := do
  match ← call (.change (.unlink goal)) with
  | .ok () =>
    if m.verbose then putLine (utf8 "removed " ++ Quote.shell goal)
    return true
  | .error e =>
    if e ≠ .noEntry then complainAbout "cannot remove" goal e
    return e = .noEntry

/-- Copies what can be read from one open file to another. -/
def pour (source goal : Bytes) (input output : Nat) : Nat → Work Bool
  | 0 => return true
  | fuel + 1 => do
    match ← call (.read input 0x20000) with
    | .error e =>
      complainAbout "error reading" source e
      return false
    | .ok [] => return true
    | .ok bytes =>
      match ← call (.write output bytes) with
      | .error e =>
        complainAbout "error writing" goal e
        return false
      | .ok () => pour source goal input output fuel

/-- Says why the goal of a copy cannot be opened. -/
def notOpened (goal : Bytes) (e : Errno) : Work Unit := do
  let hangs ← match ← call (.facts goal false) with
    | .ok f => pure (f.kind = .link && e = .alreadyExists : Bool)
    | .error _ => pure false
  if hangs then complain (utf8 "not writing through dangling symlink " ++ Quote.shell goal)
  else
    let why := if e = .isDirectory ∧ goal.getLast? = some slash then .notDirectory else e
    complainAbout "cannot create regular file" goal why

/-- Copies a file to a goal that may be new. The answer is whether that was done. -/
def copyFile (m : Manner) (source goal : Bytes) (mode : Nat) (new : Bool) : Work Bool := do
  match ← call (.openFile source .reading) with
  | .error e =>
    complainOf (utf8 "cannot open " ++ Quote.shell source ++ utf8 " for reading") e
    return false
  | .ok input =>
    let making : Opening := ⟨false, true, false, true, false, true⟩
    let first : Except Errno Nat ←
      call (.openFile goal (if new then making else ⟨false, true, false, false,
        !m.withoutContent, false⟩))
    let retried : Except Errno Nat ← match first with
      | .error e =>
        if !new ∧ m.forced ∧ e ≠ .isDirectory then do
          let _ ← takeAway m goal
          call (.openFile goal making)
        else pure (.error e)
      | r => pure r
    match retried with
    | .error e =>
      notOpened goal e
      let _ ← call (.close input)
      return false
    | .ok output =>
      let done ← if m.withoutContent then pure true else pour source goal input output 0x10000000
      if done then
        if (new ∧ !m.usualMode) ∨ m.keepsMode then
          let mask ← if m.keepsMode then pure 0 else currentMask
          let _ ← call (.change (.setMode goal (mode - (mode &&& mask))))
      let _ ← call (.close output)
      let _ ← call (.close input)
      return done

/-- Makes a link, if need be in place of what stands at the goal. -/
def makeOver (change : Change) (goal : Bytes) (replacing : Bool) : Work (Except Errno Unit) := do
  match ← call (.change change) with
  | .error .alreadyExists =>
    if replacing then
      match ← call (.change (.unlink goal)) with
      | .ok () => call (.change change)
      | .error e => return .error e
    else return .error .alreadyExists
  | r => return r

/-- Copies a symbolic link. The answer is whether that was done. -/
def copyLink (m : Manner) (source goal : Bytes) : Work Bool := do
  match ← call (.linkContent source) with
  | .error e =>
    complainAbout "cannot read symbolic link" source e
    return false
  | .ok content =>
    match ← makeOver (.makeLink content goal) goal m.forced with
    | .ok () => return true
    | .error e =>
      complainAbout "cannot create symbolic link" goal e
      return false

/-- Makes a symbolic link in place of a copy. The answer is whether that was done. -/
def linkTo (m : Manner) (source goal : Bytes) : Work Bool := do
  let here ←
    if source.head? = some slash ∨ frontOf goal = utf8 "." then pure true
    else do
      match ← call (.facts (utf8 ".") true), ← call (.facts (frontOf goal) true) with
      | .ok a, .ok b => pure (a.location = b.location : Bool)
      | _, _ => pure true
  if here then
    match ← makeOver (.makeLink source goal) goal m.forced with
    | .ok () => return true
    | .error e =>
      complainOf (utf8 "cannot create symbolic link " ++ between goal " to " source) e
      return false
  else
    complain (Quote.name goal ++
      utf8 ": can make relative symbolic links only in current directory")
    return false

/-- Gives a file a second name. The answer is whether that was done. -/
def nameAlso (through replacing : Bool) (source goal : Bytes) : Work Bool := do
  let origin ←
    if through then
      match ← Canonical.ofPath .all true source with
      | .ok names => pure (Canonical.path names)
      | .error _ => pure source
    else pure source
  match ← makeOver (.addName origin goal) goal replacing with
  | .ok () => return true
  | .error e =>
    complainOf (utf8 "cannot create hard link " ++ between goal " to " source) e
    return false

/-- What it means that a source and a goal may be the same file. -/
inductive Likeness where
  /-- They are not, or it does no harm. -/
  | apart
  /-- They are, and nothing is left to do. -/
  | settled
  /-- They are, and one cannot take the place of the other. -/
  | clash
deriving DecidableEq

/-- Says what it means that a source and a goal may be the same file, of which the facts are
known. Where links are followed, the facts about the entries themselves are looked at as well. What
is put aside or taken away first does no harm, as long as it is not the only name of the source. -/
def likeness (m : Manner) (source goal : Bytes) (f k : Facts) : Work Likeness := do
  let same := f.location = k.location
  if same ∧ m.linking = some false then return .settled
  if m.staysAtLinks ∧ f.kind = .link ∧ k.kind = .link then
    if ← areSameEntry source goal then return .clash
    if same ∧ m.backup.isNone then return if m.moving then .clash else .settled
    return .apart
  if !m.staysAtLinks ∧ !same then return .apart
  let a : Except Errno Facts ←
    if m.staysAtLinks then pure (.ok f) else call (.facts source false)
  let b : Except Errno Facts ← if m.staysAtLinks then pure (.ok k) else call (.facts goal false)
  match a, b with
  | .ok a, .ok b =>
    let sameEntries := a.location = b.location
    if !m.staysAtLinks ∧ a.kind = .link ∧ b.kind = .link ∧ m.clearing then return .apart
    if m.backup.isSome then
      if sameEntries then return if ← areSameEntry source goal then .clash else .apart
      return if !m.staysAtLinks ∧ a.kind = .link ∧ b.kind ≠ .link then .clash else .apart
    if m.moving ∨ m.clearing then
      if b.kind = .link then return .apart
      if sameEntries ∧ 1 < b.names then
        if !(← areSameEntry source goal) then return if m.moving then .clash else .apart
    if a.kind ≠ .link ∧ b.kind ≠ .link ∧ !sameEntries then return .apart
    if m.moving ∧ a.kind = .link ∧ 1 < b.names then
      match ← Canonical.ofPath .all true source with
      | .ok names =>
        return if ← areSameEntry (Canonical.path names) goal then .clash else .apart
      | .error _ => pure ()
    if m.linking = some true ∧ b.kind = .link then return .apart
    if m.staysAtLinks then
      match ← call (.facts source true), ← call (.facts goal true) with
      | .ok x, .ok y => return if x.location = y.location then .clash else .apart
      | _, _ => return .apart
    return .clash
  | _, _ => return .apart

/-- What becomes of a goal where something stands. -/
inductive Clearing where
  /-- It is left alone, and so is the source. -/
  | leave
  /-- It is replaced, if it still stands there. -/
  | go (there : Bool)
  /-- It was put aside. -/
  | aside (path : Bytes)
deriving DecidableEq

/-- Whether a source is what was put aside when something took the place of the goal before. -/
def isAsideOf (b : Backup) (source goal : Bytes) (f : Facts) : Work Bool := do
  if b.style = .numbered ∨ lastName source ≠ lastName goal ++ b.suffix then return false
  match ← call (.facts (goal ++ b.suffix) true) with
  | .ok k => return k.location = f.location
  | .error _ => return false

/-- Makes place at the goal. -/
def makePlace (m : Manner) (source goal : Bytes) (f k : Facts) : Work Clearing := do
  let dotted := lastName source = utf8 "." ∨ lastName source = utf8 ".."
  match if dotted ∨ (!m.moving ∧ k.kind = .directory) then none else m.backup with
  | some b =>
    if ← isAsideOf b source goal f then
      complain (utf8 "backing up " ++ Quote.shell goal ++ utf8 " might destroy source;  " ++
        Quote.shell source ++ utf8 (if m.moving then " not moved" else " not copied"))
      return .leave
    match ← b.putAside goal with
    | .ok path => return .aside path
    | .error e =>
      if e = .noEntry then return .go false
      complainAbout "cannot backup" goal e
      return .leave
  | none =>
    let parts := (m.keepsNames ∧ 1 < k.names) ∨ (m.staysAtLinks ∧ f.kind ≠ .file)
    if k.kind ≠ .directory ∧ !m.moving ∧ (m.clearing ∨ (!m.withoutContent ∧ parts)) then
      return if ← takeAway m goal then .go false else .leave
    return .go true

/-- Decides what becomes of a goal where something stands. -/
def clear (m : Manner) (top : Bool) (source goal : Bytes) (f k : Facts) (p : Progress) :
    Work Clearing := do
  let like ← if m.policy = .keep then pure .apart else likeness m source goal f k
  if like = .clash then
    complain (between source " and " goal ++ utf8 " are the same file")
    return .leave
  if m.updating ∧ f.kind ≠ .directory ∧ f.modified ≤ k.modified then return .leave
  if m.moving ∨ f.kind ≠ .directory then
    if m.policy = .keep then return .leave
    if m.policy = .ask then
      if !(← agrees (utf8 "overwrite " ++ Quote.shell goal)) then return .leave
  if like = .settled then return .leave
  let anyKind := m.moving && m.backup.isSome
  if k.kind ≠ .directory then
    if f.kind = .directory ∧ !anyKind then
      complain (utf8 "cannot overwrite non-directory " ++ between goal " with directory " source)
      return .leave
    let numbered := m.backup.any fun b => b.style = .numbered
    if top ∧ !numbered ∧ p.goals.contains (← markOf goal k) then
      complain (utf8 "will not overwrite just-created " ++ between goal " with " source)
      return .leave
  if f.kind ≠ .directory ∧ k.kind = .directory ∧ !anyKind then
    complain (utf8 "cannot overwrite directory " ++ Quote.shell goal ++ utf8 " with non-directory")
    return .leave
  makePlace m source goal f k

/-- Where an entry stands. -/
def placeOf? (path : Bytes) : Work (Option Path) := do
  match ← call (.facts path false) with
  | .ok f => return some f.location
  | .error _ => return none

/-- Puts what was put aside back in its place. -/
def putBack (m : Manner) (goal : Bytes) (aside : Option Bytes) : Work Unit := do
  match aside with
  | some path =>
    match ← call (.change (.rename path goal)) with
    | .ok () =>
      if m.verbose then
        putLine (between path " -> " goal ++ utf8 " (unbackup)")
    | .error e => complainAbout "cannot un-backup" goal e
  | none => return ()

/-- Moves an entry. The answer is whether that was done. -/
def move (m : Manner) (source goal : Bytes) (aside : Option Bytes) : Work Bool := do
  match ← call (.change (.rename source goal)) with
  | .ok () =>
    tell m source goal aside
    return true
  | .error e =>
    if e = .invalidArgument then
      complain (utf8 "cannot move " ++ between source " to a subdirectory of itself, " goal)
    else if e = .notEmpty ∨ e = .alreadyExists ∨ e = .isDirectory then
      complainAbout "cannot overwrite" goal e
    else complainOf (utf8 "cannot move " ++ between source " to " goal) e
    return false

/-- Copies what is no directory to a goal where something may stand. The answer is whether that was
done. -/
def copy (m : Manner) (through : Bool) (source goal : Bytes) (f : Facts) (there : Bool) :
    Work Bool := do
  match m.linking with
  | some true => linkTo m source goal
  | some false => nameAlso through (m.forced || m.policy = .ask) source goal
  | none =>
    if f.kind = .link then copyLink m source goal
    else copyFile m source goal f.mode !there

/-- Whether a file may come once more under another name, whose copy is then another name of the
first copy. -/
def comesAgain (m : Manner) (top : Bool) (f : Facts) : Bool :=
  m.keepsNames && m.linking ≠ some false && f.kind ≠ .directory &&
    (1 < f.names || m.throughOthers || (top && m.throughOperands))

/-- Gives a copy the times of what it is a copy of, if they are kept. -/
def keepTimes (m : Manner) (goal : Bytes) (f : Facts) : Work Unit := do
  if m.keepsTimes then
    let _ ← call (.change (.setTimes goal (f.kind ≠ .link) (some f.modified) (some f.accessed)))

/-- Gives the copy of a directory its permissions and its times. -/
def settleDirectory (m : Manner) (goal : Bytes) (f : Facts) (new : Bool) : Work Unit := do
  keepTimes m goal f
  if m.keepsMode then
    let _ ← call (.change (.setMode goal f.mode))
  else if new ∧ !m.usualMode then
    let mask ← currentMask
    let _ ← call (.change (.setMode goal (f.mode - (f.mode &&& mask))))

/-- Copies or moves an entry to a path. The operand to which it belongs is known, and where that
goes. -/
def transfer (m : Manner) (topSource topGoal : Bytes) :
    Nat → Bool → Bytes → Bytes → Progress → Work Progress
  | 0, _, _, _, p => return p
  | fuel + 1, top, source, goal, p => do
    let through := !m.moving && (if top then m.throughOperands else m.throughOthers)
    match ← call (.facts source through) with
    | .error e =>
      complainAbout "cannot stat" source e
      return p
    | .ok f =>
      let isDirectory := f.kind = .directory
      if isDirectory ∧ !m.moving ∧ !m.recursive then
        complain (utf8 "-r not specified; omitting directory " ++ Quote.shell source)
        return p
      let mark ← if isDirectory then pure (none, f.location) else markOf source f
      if top ∧ (isDirectory ∨ (!m.moving ∧ m.backup.isNone)) ∧ p.sources.contains mark then
        let kind := if isDirectory then "directory " else "file "
        say (utf8 ("warning: source " ++ kind) ++ Quote.shell source ++
          utf8 " specified more than once")
        return p
      let p := if top then { p with sources := mark :: p.sources, made := none } else p
      if p.made = some f.location then
        complain (utf8 "cannot copy a directory, " ++ between topSource ", into itself, " topGoal)
        return p
      let asEntry := m.moving || f.kind = .link || isDirectory || m.linking.isSome ||
        m.backup.isSome || m.clearing
      let named := if m.moving ∧ m.policy = .keep then withoutSlashes goal else goal
      let clearing ← match ← call (.facts named !asEntry) with
        | .ok k => clear m top source goal f k p
        | .error e =>
          if e = .noEntry ∨ (e = .tooManyLinks ∧ m.forced) then pure (.go (e = .tooManyLinks))
          else do
            complainAbout "cannot stat" goal e
            pure Clearing.leave
      if clearing = .leave then return p
      let there := clearing = .go true
      let aside := match clearing with
        | .aside path => some path
        | _ => none
      if m.moving then
        if ← move m source goal aside then return ← p.reached goal
        putBack m goal aside
        return p
      if top ∧ m.backup.isNone then
        match ← call (.facts goal false) with
        | .ok k =>
          if k.kind = .link ∧ p.goals.contains (← markOf goal k) then
            complain (utf8 "will not copy " ++
              between source " through just-created symlink " goal)
            return p
        | .error _ => pure ()
      if isDirectory then
        let p ←
          if there then pure p
          else
            match ← call (.change (.makeDirectory goal)) with
            | .error e =>
              complainAbout "cannot create directory" goal e
              return p
            | .ok () =>
              tell m source goal none
              if p.made.isNone then pure { p with made := ← placeOf? goal } else pure p
        match ← call (.children source) with
        | .error e =>
          complainAbout "cannot access" source e
          return p
        | .ok children =>
          let mut p := p
          for c in children do
            p ← transfer m topSource topGoal fuel false (below source c.1) (below goal c.1) p
          settleDirectory m goal f !there
          return p
      else
        tell m source goal aside
        let earlier := if comesAgain m top f then p.copies.lookup f.location else none
        let done ← match earlier with
          | some copied => nameAlso false true copied goal
          | none => copy m through source goal f there
        if done ∧ earlier.isNone ∧ m.linking.isNone then keepTimes m goal f
        if !done then
          putBack m goal aside
          return p
        let p := if comesAgain m top f ∧ earlier.isNone then
          { p with copies := (f.location, goal) :: p.copies } else p
        p.reached goal

/-- The path of a copy in a directory. The directory above has no name of its own there. -/
def goalIn (directory source : Bytes) : Bytes :=
  let name := lastName source
  if name = utf8 ".." then directory else below directory name

/-- Makes the directories on the way to a source in the directory that it is copied to. The answer
is whether the source can be copied. -/
def makeAncestors (m : Manner) (directory : Bytes) : List Bytes → Work Bool
  | [] => return true
  | path :: rest => do
    match ← call (.facts path true) with
    | .error e =>
      complainAbout "failed to get attributes of" path e
      return false
    | .ok _ =>
      let goal := below directory path
      let found : Except Errno Facts ← call (.facts goal true)
      match found with
      | .ok _ => makeAncestors m directory rest
      | .error _ =>
        match ← call (.change (.makeDirectory goal)) with
        | .ok () =>
          if m.verbose then putLine (path ++ utf8 " -> " ++ goal)
          makeAncestors m directory rest
        | .error e =>
          complainAbout "cannot make directory" goal e
          return false

/-- Copies or moves operands to the last of them, or into a directory. -/
def transferAll (m : Manner) (f : Options.Found) : Work Unit := do
  let each : List Bytes → Bytes → Work Unit := fun sources directory => do
    let mut p := Progress.start
    for source in sources do
      if m.keepsPath then
        if ← makeAncestors m directory (ancestors source) then
          let goal := below directory (withoutSlashes source)
          p ← transfer m source goal 4096 true source goal p
      else
        let source := if f.has "strip-trailing-slashes" then withoutSlashes source else source
        let goal := goalIn directory source
        p ← transfer m source goal 4096 true source goal p
  let goals := f.given.filter (·.key = "t")
  if 1 < goals.length then fail 1 (utf8 "multiple target directories specified")
  let directory := f.value? "t"
  if f.operands ≠ [] ∧ directory.isSome ∧ f.has "T" then
    fail 1 (utf8
      "cannot combine --target-directory (-t) and --no-target-directory (-T)")
  match f.operands, directory with
  | [], _ => misused 1 (utf8 "missing file operand")
  | sources, some directory =>
    match ← call (.facts directory true) with
    | .ok k =>
      if k.kind = .directory then each sources directory
      else complainAbout "target directory" directory .notDirectory
    | .error e => complainAbout "target directory" directory e
  | [only], none =>
    misused 1 (utf8 "missing destination file operand after " ++ Quote.shell only)
  | operands, none =>
    let goal := operands.getLastD []
    let facts : Except Errno Facts ← call (.facts goal true)
    let inside : Bool := match facts with
      | .ok k => k.kind = .directory && !f.has "T"
      | .error _ => false
    if inside then each operands.dropLast goal
    else if m.keepsPath then
      misused 1 (utf8 "with --parents, the destination must be a directory")
    else
      match operands with
      | [source, goal] =>
        match if m.forced ∧ source = goal then m.backup else none, facts with
        | some b, .ok _ =>
          let _ ← transfer { m with backup := none } source goal 4096 true source
            (← b.pathFor goal) .start
        | _, _ =>
          let _ ← transfer m source goal 4096 true source goal .start
      | _ =>
        if f.has "T" then extraOperand 1 ((operands[2]?).getD [])
        let why : Errno := match facts with
          | .error e => e
          | .ok _ => .notDirectory
        complainAbout "target" goal why

/-- What is done about files at the goal, according to options one after another. -/
def policyOf (moving : Bool) (f : Options.Found) : Policy :=
  f.given.foldl (fun policy g =>
    match g.key with
    | "f" => if moving then .replace else policy
    | "i" => .ask
    | "n" => .keep
    | _ => policy) .replace

/-- What is kept of files. -/
structure Kept where
  /-- Their permissions. -/
  mode : Bool
  /-- New ones have the usual permissions. -/
  usual : Bool
  /-- What their names have in common. -/
  names : Bool
  /-- Their times. -/
  times : Bool

/-- What is kept of files, as options one after another say. -/
def kept (f : Options.Found) : Work Kept :=
  f.given.foldlM (fun k g => do
    match g.key, g.value with
    | "a", _ => return ⟨true, false, true, true⟩
    | "p", _ => return ⟨true, false, k.names, true⟩
    | "preserve", none => return ⟨true, false, k.names, true⟩
    | "d", _ => return { k with names := true }
    | "preserve", some value =>
      let chosen ← (value.splitOn 0x2C).mapM (parts "--preserve")
      let has := fun (part : String) => chosen.any fun c => c = part ∨ c = "all"
      return { mode := k.mode || has "mode", usual := k.usual && !has "mode"
               names := k.names || has "links", times := k.times || has "timestamps" }
    | "no-preserve", some value =>
      let chosen ← (value.splitOn 0x2C).mapM (parts "--no-preserve")
      let has := fun (part : String) => chosen.any fun c => c = part ∨ c = "all"
      return { mode := k.mode && !has "mode", usual := k.usual || has "mode"
               names := k.names && !has "links", times := k.times && !has "timestamps" }
    | _, _ => return k) ⟨false, false, false, false⟩
where
  /-- The part of a file that a word means. -/
  parts (option : String) (word : Bytes) : Work String :=
    Options.choice option [["mode"], ["timestamps"], ["ownership"], ["links"], ["context"],
      ["xattr"], ["all"]] word

end Transfer

/-- Copies files and directories. -/
def cp (args : List Bytes) : Work Unit := do
  let f ← Options.read (Backup.switches ++ [.flag "a" "archive", .flag "d" "",
    .flag "f" "force", .flag "H" "", .flag "i" "interactive", .flag "l" "link",
    .flag "L" "dereference", .flag "n" "no-clobber", .flag "P" "no-dereference", .flag "p" "",
    ⟨"", "preserve", .optional⟩, .flag "" "parents", .flag "r" "recursive", .flag "R" "",
    .flag "s" "symbolic-link", .valued "t" "target-directory",
    .flag "T" "no-target-directory", .flag "u" "update",
    .flag "v" "verbose", .flag "x" "one-file-system", .flag "" "attributes-only",
    .flag "" "remove-destination", .flag "" "strip-trailing-slashes",
    ⟨"", "reflink", .optional⟩, .valued "" "sparse", .valued "" "no-preserve"]) true 1 args
  let recursive := f.has "r" || f.has "R" || f.has "a"
  let (operands, others) := match f.last? ["H", "L", "P", "d", "a"] with
    | some "L" => (true, true)
    | some "H" => (true, false)
    | some _ => (false, false)
    | none => if recursive && !f.has "l" then (false, false) else (true, true)
  let policy := Transfer.policyOf false f
  let kept ← Transfer.kept f
  let sparse ← match f.value? "sparse" with
    | some value => Options.choice "--sparse" [["never"], ["auto"], ["always"]] value
    | none => pure "auto"
  let clones ← match f.value? "reflink" with
    | some value => Options.choice "--reflink" [["auto"], ["always"], ["never"]] value
    | none => pure (if f.has "reflink" then "always" else "auto")
  if f.has "l" ∧ f.has "s" then misused 1 (utf8 "cannot make both hard and symbolic links")
  if policy = .keep ∧ (f.has "b" ∨ f.has "S") then
    misused 1 (utf8 "options --backup and --no-clobber are mutually exclusive")
  if clones = "always" ∧ sparse ≠ "auto" then
    misused 1 (utf8 "--reflink can be used only with --sparse=auto")
  let m : Transfer.Manner :=
    { moving := false, policy := policy, forced := f.has "f", recursive := recursive
      throughOperands := operands, throughOthers := others, keepsMode := kept.mode
      usualMode := kept.usual, keepsTimes := kept.times, keepsNames := kept.names
      linking := if f.has "s" then some true else if f.has "l" then some false else none
      withoutContent := f.has "attributes-only", updating := f.has "u"
      backup := ← Backup.ofOptions f, clearing := f.has "remove-destination"
      keepsPath := f.has "parents", verbose := f.has "v" }
  Transfer.transferAll m f

/-- Moves files and directories. -/
def mv (args : List Bytes) : Work Unit := do
  let f ← Options.read (Backup.switches ++ [.flag "f" "force",
    .flag "i" "interactive", .flag "n" "no-clobber", .flag "" "strip-trailing-slashes",
    .valued "t" "target-directory", .flag "T" "no-target-directory",
    .flag "u" "update", .flag "v" "verbose", ⟨"Z", "context", .optional⟩]) true 1 args
  let policy := Transfer.policyOf true f
  let enough := 1 < f.operands.length || (f.has "t" && f.operands ≠ [])
  if enough ∧ policy = .keep ∧ (f.has "b" ∨ f.has "S") then
    misused 1 (utf8 "options --backup and --no-clobber are mutually exclusive")
  let m : Transfer.Manner :=
    { moving := true, policy := policy, forced := false, recursive := true
      throughOperands := false, throughOthers := false, keepsMode := true, usualMode := false
      keepsTimes := true, keepsNames := true, linking := none, withoutContent := false
      updating := f.has "u"
      backup := ← if enough then Backup.ofOptions f else pure none
      clearing := false
      keepsPath := false, verbose := f.has "v" }
  Transfer.transferAll m f

end CommandShell.Tool
