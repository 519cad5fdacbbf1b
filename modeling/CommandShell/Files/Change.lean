import CommandShell.Files.Open

/-!
# Changing the tree

Entries are made, moved and taken away by paths that name the entries themselves: the directories on
the way are followed as usual, but a symbolic link that the last name leads to is not. What cannot
be done leaves everything as it is, and the error says why.
-/

namespace CommandShell

/-- What a path names, when the entry itself is meant. -/
inductive Target where
  /-- A name in a directory, which may or may not have an entry of that name. If the path ends with
  a slash, the entry has to be a directory. -/
  | entry (directory : Path) (name : Name) (asDirectory : Bool)
  /-- A directory that the path names by its place alone; the last step says how. -/
  | place (directory : Path) (step : Step)
deriving DecidableEq, Repr

namespace FileSystem

/-- Follows the way to the last name of a path. -/
def target (fs : FileSystem) (path : Bytes) : Except Errno Target :=
  if path = [] then .error .noEntry
  else if Step.pathLimit < path.length then .error .nameTooLong
  else
    let steps := (Step.ofPath path).filter (· ≠ .slash)
    let asDirectory := path.getLast? = some slash
    let way : List Step → Except Errno Path := fun rest =>
      match fs.follow false Step.linkLimit (origin fs.current path) rest with
      | .error e => .error e
      | .ok (.absent _ _) => .error Errno.noEntry
      | .ok (.found p .directory) => .ok p
      | .ok (.found _ _) => .error Errno.notDirectory
    match steps.getLast? with
    | none => .ok (.place [] .slash)
    | some (.name n) =>
      match way steps.dropLast with
      | .error e => .error e
      | .ok directory =>
        if !fs.canEnter directory then .error .permissionDenied
        else if Step.nameLimit < n.length then .error .nameTooLong
        else .ok (.entry directory n asDirectory)
    | some step =>
      match way steps with
      | .error e => .error e
      | .ok directory => .ok (.place directory step)

/-- The entry that a path names, with its path. A link is followed only if the path ends with a
slash. -/
def entryAt (fs : FileSystem) (path : Bytes) : Except Errno (Path × Node) :=
  match fs.target path with
  | .error e => .error e
  | .ok (.place directory _) => .ok (directory, .directory)
  | .ok (.entry directory name asDirectory) =>
    match fs.find? (directory ++ [name]) with
    | none => .error .noEntry
    | some node =>
      if asDirectory then
        match fs.locate false path with
        | .error e => .error e
        | .ok (.absent _ _) => .error .noEntry
        | .ok (.found p .directory) => .ok (p, .directory)
        | .ok (.found _ _) => .error .notDirectory
      else .ok (directory ++ [name], node)

/-- The entry that a path leads to, through all links, with its path. -/
def entryThrough (fs : FileSystem) (path : Bytes) : Except Errno (Path × Node) :=
  match fs.locate false path with
  | .error e => .error e
  | .ok (.absent _ _) => .error .noEntry
  | .ok (.found p node) =>
    if path.getLast? = some slash ∧ node ≠ .directory then .error .notDirectory else .ok (p, node)

/-- The names in a directory with what they name, in the order in which they were made. -/
def children (fs : FileSystem) (directory : Path) : List (Name × Node) :=
  fs.entries.filterMap fun e =>
    if directory.isPrefixOf e.1 then
      match e.1.drop directory.length with
      | [name] => some (name, e.2)
      | _ => none
    else none

/-- Whether a directory has no entries. -/
def isEmptyDirectory (fs : FileSystem) (directory : Path) : Bool :=
  fs.entries.all fun e => !(directory.isPrefixOf e.1 && e.1 != directory)

/-- Makes an entry where a path names none. -/
def make (fs : FileSystem) (path : Bytes) (node : Node) : Except Errno FileSystem :=
  match fs.target path with
  | .error e => .error e
  | .ok (.place _ _) => .error .alreadyExists
  | .ok (.entry directory name asDirectory) =>
    match fs.find? (directory ++ [name]) with
    | some _ => .error .alreadyExists
    | none =>
      if !fs.isDirectory directory ∨ (asDirectory ∧ node ≠ .directory) then .error .noEntry
      else if !fs.canChange directory then .error .permissionDenied
      else .ok (fs.add (directory ++ [name]) node)

/-- Takes away a directory without entries. -/
def removeDirectory (fs : FileSystem) (path : Bytes) : Except Errno FileSystem :=
  match fs.target path with
  | .error e => .error e
  | .ok (.place _ .here) => .error .invalidArgument
  | .ok (.place _ .up) => .error .notEmpty
  | .ok (.place _ _) => .error .busy
  | .ok (.entry directory name _) =>
    let path := directory ++ [name]
    match fs.find? path with
    | none => .error .noEntry
    | some node =>
      if !fs.canChange directory then .error .permissionDenied
      else if node ≠ .directory then .error .notDirectory
      else if fs.isEmptyDirectory path then .ok (fs.remove path)
      else .error .notEmpty

/-- Takes away an entry that is no directory. -/
def unlink (fs : FileSystem) (path : Bytes) : Except Errno FileSystem :=
  match fs.target path with
  | .error e => .error e
  | .ok (.place _ _) => .error .isDirectory
  | .ok (.entry directory name asDirectory) =>
    let path := directory ++ [name]
    match fs.find? path with
    | none => .error .noEntry
    | some node =>
      if asDirectory then .error (if node = .directory then .isDirectory else .notDirectory)
      else if !fs.canChange directory then .error .permissionDenied
      else if node = .directory then .error .isDirectory
      else .ok (fs.remove path)

/-- Moves an entry and all that is below it to another path. What stood there is gone. -/
def move (fs : FileSystem) (source goal : Path) : FileSystem :=
  let cleared := fs.remove goal
  let moved := fun path : Path =>
    if source.isPrefixOf path then goal ++ path.drop source.length else path
  { cleared with
    entries := cleared.entries.map fun e => (moved e.1, e.2)
    shared := cleared.shared.map (·.map moved)
    stamps := cleared.stamps.map fun e => (moved e.1, e.2) }

/-- Gives an entry that is no directory another path as well. -/
def link (fs : FileSystem) (source goal : Bytes) : Except Errno FileSystem :=
  match fs.entryAt source, fs.target goal with
  | .error e, _ => .error e
  | _, .error e => .error e
  | _, .ok (.place _ _) => .error .alreadyExists
  | .ok (path, node), .ok (.entry directory name asDirectory) =>
    if (fs.find? (directory ++ [name])).isSome then .error .alreadyExists
    else if !fs.isDirectory directory ∨ asDirectory then .error .noEntry
    else if !fs.canChange directory then .error .permissionDenied
    else if node = .directory then .error .notPermitted
    else .ok (fs.addName path (directory ++ [name]) node)

/-- Gives an entry another path in place of one. An entry that stands there is replaced if both are
directories, and that one without entries, or neither is one. Two paths of one file both stay. -/
def rename (fs : FileSystem) (source goal : Bytes) : Except Errno FileSystem :=
  match fs.target source, fs.target goal with
  | .error e, _ => .error e
  | _, .error e => .error e
  | .ok (.place _ _), _ => .error .busy
  | _, .ok (.place _ _) => .error .busy
  | .ok (.entry sourceDirectory sourceName sourceSlash),
      .ok (.entry goalDirectory goalName goalSlash) =>
    let source := sourceDirectory ++ [sourceName]
    let goal := goalDirectory ++ [goalName]
    match fs.find? source with
    | none => .error .noEntry
    | some node =>
      let isDirectory := node = .directory
      if !isDirectory ∧ (sourceSlash ∨ goalSlash) then .error .notDirectory
      else if source ≠ goal ∧ source.isPrefixOf goal then .error .invalidArgument
      else if !fs.isDirectory goalDirectory then .error .noEntry
      else if (fs.names source).contains goal then .ok fs
      else if !fs.canChange sourceDirectory ∨ !fs.canChange goalDirectory then
        .error .permissionDenied
      else
        match fs.find? goal with
        | none => .ok (fs.move source goal)
        | some .directory =>
          if !isDirectory then .error .isDirectory
          else if goal.isPrefixOf source then .error .notEmpty
          else if fs.isEmptyDirectory goal then .ok (fs.move source goal)
          else .error .notEmpty
        | some _ => if isDirectory then .error .notDirectory else .ok (fs.move source goal)

/-- Makes the directories on the way to a place that are missing. Links on the way are followed. The
result is the path of the place. -/
def makeWay (fs : FileSystem) (directory : Path) : List Name → Except Errno (FileSystem × Path)
  | [] => .ok (fs, directory)
  | name :: rest =>
    match ({ fs with current := directory } : FileSystem).locate false name with
    | .error e => .error e
    | .ok (.found p .directory) => makeWay fs p rest
    | .ok (.found _ _) => .error .notDirectory
    | .ok (.absent p n) => makeWay (fs.add (p ++ [n]) .directory) (p ++ [n]) rest

end FileSystem

end CommandShell
