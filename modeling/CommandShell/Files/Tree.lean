import CommandShell.Bytes
import CommandShell.Errno

/-!
# Files

Files stand in directories below one root. An entry is known by its path from the root: the names of
the directories on the way and its own. Besides ordinary files there are directories, symbolic
links, named pipes, programs, and a few devices. A file may have several paths; what is changed
under one of them is changed under all.
-/

namespace CommandShell

/-- The name of an entry in its directory. -/
abbrev Name := Bytes

/-- The way from the root to an entry, by names. The root itself has the empty path. -/
abbrev Path := List Name

/-- What stands at a path. -/
inductive Node where
  /-- A file with its content and the bits of its permissions. -/
  | file (content : Bytes) (mode : Nat)
  /-- A file that can be opened, and whose reading fails after some content. -/
  | damaged (content : Bytes) (e : Errno)
  /-- A directory. -/
  | directory
  /-- A symbolic link with the path it leads to. -/
  | link (target : Bytes)
  /-- The device that accepts everything and keeps nothing. -/
  | null
  /-- The device that accepts everything and gives zeros, to the interpreter a number of blocks. -/
  | zero (blocks : Nat)
  /-- The device that has no room for anything and gives zeros, to the interpreter a number of
  blocks. -/
  | full (blocks : Nat)
  /-- The terminal of a process. No process has one, so that it cannot be opened. -/
  | terminal
  /-- The open file that a process knows under a number. -/
  | descriptor (number : Nat)
  /-- A pipe that has a name. -/
  | pipe
  /-- A program of the system. -/
  | program (name : String)
  /-- A link that leads to the current directory, wherever that is. -/
  | here
deriving DecidableEq, Repr

/-- What is known of an entry besides what stands there. The times are in billionths of a second. -/
structure Stamp where
  /-- The bits of the permissions of a directory or a pipe. -/
  mode : Nat
  /-- When it was last changed. -/
  modified : Int
  /-- When it was last looked at. -/
  accessed : Int
deriving DecidableEq, Repr

namespace Stamp

/-- The time at which the system starts. -/
def epoch : Int := 1700000000000000000

/-- The time after so many millionths of a second in which processes ran. They run after the system
has started. -/
def timeAfter (span : Nat) : Int :=
  epoch + 1000000000 + 1000 * span

/-- The stamp of what was there when the system started. -/
def usual : Stamp := ⟨0o755, epoch, epoch⟩

end Stamp

/-- The entries below the root and the directory in which relative paths begin. -/
structure FileSystem where
  /-- The entries with their paths. -/
  entries : List (Path × Node)
  /-- The directory in which relative paths begin. It may have been removed. -/
  current : Path
  /-- The paths of each file that may have more than one. -/
  shared : List (List Path) := []
  /-- The stamps of the entries that do not have the usual one. -/
  stamps : List (Path × Stamp) := []
deriving DecidableEq, Repr

namespace FileSystem

/-- The entry at a path. -/
def find? (fs : FileSystem) (path : Path) : Option Node :=
  if path = [] then some .directory else fs.entries.lookup path

/-- Whether a directory stands at a path. -/
def isDirectory (fs : FileSystem) (path : Path) : Bool :=
  fs.find? path = some .directory

/-- Adds an entry at a path where there is none. -/
def add (fs : FileSystem) (path : Path) (node : Node) : FileSystem :=
  { fs with entries := fs.entries ++ [(path, node)] }

/-- All paths of the entry at a path. -/
def names (fs : FileSystem) (path : Path) : List Path :=
  (fs.shared.find? (·.contains path)).getD [path]

/-- The stamp of the entry at a path. -/
def stamp (fs : FileSystem) (path : Path) : Stamp :=
  (fs.stamps.lookup path).getD .usual

/-- Sets the stamp of the entry at a path, and so at all paths that it has. -/
def setStamp (fs : FileSystem) (path : Path) (s : Stamp) : FileSystem :=
  let names := fs.names path
  { fs with stamps := names.map (·, s) ++ fs.stamps.filter fun e => !names.contains e.1 }

/-- Whether entries of a directory can be reached. -/
def canEnter (fs : FileSystem) (directory : Path) : Bool :=
  (fs.stamp directory).mode &&& 0o100 ≠ 0

/-- Whether the names in a directory can be listed. -/
def canList (fs : FileSystem) (directory : Path) : Bool :=
  (fs.stamp directory).mode &&& 0o400 ≠ 0

/-- Whether entries can be made in a directory and taken away from it. -/
def canChange (fs : FileSystem) (directory : Path) : Bool :=
  (fs.stamp directory).mode &&& 0o300 = 0o300

/-- Gives the entry at a path another path as well, where there is none. -/
def addName (fs : FileSystem) (path another : Path) (node : Node) : FileSystem :=
  let names := fs.names path
  let named := { fs.add another node with
    shared := (names ++ [another]) :: fs.shared.filter (· ≠ names) }
  match fs.stamps.lookup path with
  | some s => named.setStamp path s
  | none => named

/-- Sets the entry at a path, and so at all paths that it has, whether there is one or not. -/
def set (fs : FileSystem) (path : Path) (node : Node) : FileSystem :=
  match fs.find? path with
  | none => fs.add path node
  | some _ =>
    let names := fs.names path
    { fs with entries := fs.entries.map fun e => if names.contains e.1 then (e.1, node) else e }

/-- Takes away the entry at a path. Its other paths stay. -/
def remove (fs : FileSystem) (path : Path) : FileSystem :=
  { fs with
    entries := fs.entries.filter fun e => e.1 ≠ path
    shared := (fs.shared.map (·.filter (· ≠ path))).filter (1 < ·.length)
    stamps := fs.stamps.filter fun e => e.1 ≠ path }

end FileSystem

/-- The byte that separates the names of a path. -/
def slash : UInt8 := 0x2F

/-- A path below another, written with slashes between its names. -/
def Path.relative (path : Path) : Bytes :=
  [slash].intercalate path

/-- A path from the root, written with a slash before each name. -/
def Path.absolute (path : Path) : Bytes :=
  if path = [] then [slash] else path.flatMap fun name => slash :: name

/-- The path that stands for a directory once it was removed from its path while it was in use. No
entry can have that path, as no name has a slash in it. -/
def Path.removed (path : Path) : Path :=
  path.dropLast ++ [slash :: path.getLastD []]

/-- A file that holds a program of the system. -/
def programContent (name : String) : Bytes :=
  0x7F :: utf8 ("ELF program " ++ name)

/-- The program that a file holds, if it holds one. -/
def programIn? (content : Bytes) : Option String :=
  let front := programContent ""
  if front.isPrefixOf content ∧ front.length < content.length then
    String.fromUTF8? ⟨(content.drop front.length).toArray⟩
  else none

/-- The path of the current directory, unless that was removed. -/
def FileSystem.currentDirectory? (fs : FileSystem) : Option Bytes :=
  if fs.isDirectory fs.current then some (Path.absolute fs.current) else none

/-- The entries below a directory, with their paths from there, in the order of these paths. -/
def FileSystem.below (fs : FileSystem) (top : Path) : List (Bytes × Node) :=
  let inside := fs.entries.filterMap fun e =>
    if top.isPrefixOf e.1 ∧ e.1 ≠ top then some (Path.relative (e.1.drop top.length), e.2) else none
  inside.mergeSort fun a b => !decide (b.1 < a.1)

end CommandShell
