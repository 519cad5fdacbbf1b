import CommandShell.Files.Tree

/-!
# Following paths

A written path is a sequence of steps: into an entry of a name, to the directory itself (`.`), to
the one above (`..`); a slash at its end asks for a directory. Following it begins at the root or
in the current directory and goes through symbolic links, of which at most forty may lie on the
way.
-/

namespace CommandShell

/-- A step of a written path. -/
inductive Step where
  /-- To the entry of a name. -/
  | name (n : Name)
  /-- To the directory itself. -/
  | here
  /-- To the directory above; the root is above itself. -/
  | up
  /-- What was found has to be a directory. -/
  | slash
deriving DecidableEq, Repr

namespace Step

/-- The step that a name between slashes stands for. -/
def ofName? (n : Name) : Option Step :=
  if n = [] then none
  else if n = [0x2E] then some .here
  else if n = [0x2E, 0x2E] then some .up
  else some (.name n)

/-- The steps of a written path. -/
def ofPath (path : Bytes) : List Step :=
  (path.splitOn CommandShell.slash).filterMap ofName? ++
    if path.getLast? = some CommandShell.slash then [.slash] else []

/-- The number of bytes that a name may have. -/
def nameLimit : Nat := 255

/-- The number of bytes that a path may have. -/
def pathLimit : Nat := 4095

/-- The number of symbolic links that may lie on the way. -/
def linkLimit : Nat := 40

end Step

/-- Where a path leads. -/
inductive Place where
  /-- To an entry that is no symbolic link. -/
  | found (path : Path) (node : Node)
  /-- To a name that the directory has no entry of. -/
  | absent (directory : Path) (name : Name)
deriving DecidableEq, Repr

namespace FileSystem

/-- Where a path begins: at the root if it begins with a slash, else in a given directory. -/
def origin (directory : Path) (path : Bytes) : Path :=
  if path.head? = some slash then [] else directory

/-- Follows steps from a directory through at most so many links. Only the last step may lead to an
entry that is no directory, or to none. When an entry is to be created, a slash after the last name
asks for a directory, which cannot be created that way. -/
def follow (fs : FileSystem) (creating : Bool) (links : Nat) (directory : Path) :
    List Step → Except Errno Place
  | [] => .ok (.found directory .directory)
  | .here :: rest =>
    if fs.canEnter directory then fs.follow creating links directory rest
    else .error .permissionDenied
  | .slash :: rest => fs.follow creating links directory rest
  | .up :: rest =>
    if fs.canEnter directory then fs.follow creating links directory.dropLast rest
    else .error .permissionDenied
  | .name n :: rest =>
    if !fs.canEnter directory then .error .permissionDenied
    else if creating ∧ rest ≠ [] ∧ rest.all (· = .slash) then .error .isDirectory
    else if Step.nameLimit < n.length then .error .nameTooLong
    else
      match fs.find? (directory ++ [n]) with
      | none => if rest = [] then .ok (.absent directory n) else .error .noEntry
      | some .directory => fs.follow creating links (directory ++ [n]) rest
      | some (.link target) =>
        match links with
        | 0 => .error .tooManyLinks
        | left + 1 =>
          fs.follow creating left (origin directory target) (Step.ofPath target ++ rest)
      | some .here =>
        match links with
        | 0 => .error .tooManyLinks
        | left + 1 => fs.follow creating left fs.current rest
      | some node =>
        if rest = [] then .ok (.found (directory ++ [n]) node) else .error .notDirectory
termination_by steps => (links, steps.length)

/-- Where a written path leads. -/
def locate (fs : FileSystem) (creating : Bool) (path : Bytes) : Except Errno Place :=
  if path = [] then .error .noEntry
  else if Step.pathLimit < path.length then .error .nameTooLong
  else fs.follow creating Step.linkLimit (origin fs.current path) (Step.ofPath path)

end FileSystem

end CommandShell
