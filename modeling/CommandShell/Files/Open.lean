import CommandShell.Files.Walk
import CommandShell.IoError

/-!
# Opening files

A file is opened to be read, or to be appended to. Opening it to be appended to creates it if there
is none, empty, and changes nothing if there is one. Reading gives the content from the beginning,
and may fail after some of it; a directory can be opened, but reading it fails at once.

A device of zeros has no end, and what is read here has one. So such an entry says itself how many
blocks of zeros it gives. It stands for the device on an output that does not take all of these:
printing it then fails where it would with any larger number of blocks. An output that does take
all of them is beyond what the entry stands for.
-/

namespace CommandShell

/-- What reading an opened file leads to. -/
structure Reading where
  /-- The bytes in order. -/
  content : Bytes
  /-- Why reading fails after these bytes, if it does. -/
  failure : Option IoError
deriving DecidableEq, Repr

/-- The number of zeros in a block. -/
def Reading.zeroBlock : Nat := 8192

/-- What is read of a device that gives blocks of zeros. -/
@[noinline] def Reading.zeros (blocks : Nat) : Reading :=
  ⟨List.replicate (blocks * zeroBlock) 0, none⟩

/-- What reading an entry leads to. -/
def Node.reading : Node → Reading
  | .file content _ => ⟨content, none⟩
  | .program name => ⟨programContent name, none⟩
  | .damaged content e => ⟨content, some (.system e)⟩
  | .directory => ⟨[], some (.system .isDirectory)⟩
  | .zero blocks => .zeros blocks
  | .full blocks => .zeros blocks
  | _ => ⟨[], none⟩

/-- The permissions of a file that is created to be written to. -/
def newFileMode : Nat := 0o644

namespace FileSystem

/-- A path that can be passed to the system has no byte zero in it. -/
def checkPath (path : Bytes) : Except IoError Unit :=
  if path.contains 0 then .error .nulInPath else .ok ()

/-- Whether what stands at a path can be read. -/
def canRead (fs : FileSystem) (path : Path) : Node → Bool
  | .file _ mode => mode &&& 0o400 ≠ 0
  | .directory => fs.canList path
  | .pipe => fs.canList path
  | _ => true

/-- Whether what stands at a path can be written to, as far as it is no directory. -/
def canWrite (fs : FileSystem) (path : Path) : Node → Bool
  | .file _ mode => mode &&& 0o200 ≠ 0
  | .pipe => (fs.stamp path).mode &&& 0o200 ≠ 0
  | _ => true

/-- Opens a file to be read. -/
def openRead (fs : FileSystem) (path : Bytes) : Except IoError Reading :=
  match checkPath path with
  | .error e => .error e
  | .ok () =>
    match fs.locate false path with
    | .error e => .error (.system e)
    | .ok (.absent _ _) => .error (.system .noEntry)
    | .ok (.found path node) =>
      if node = .terminal then .error (.system .noDevice)
      else if fs.canRead path node then .ok node.reading
      else .error (.system .permissionDenied)

/-- Opens a file to be appended to; the result is the file system afterwards. -/
def openAppend (fs : FileSystem) (path : Bytes) : Except IoError FileSystem :=
  match checkPath path with
  | .error e => .error e
  | .ok () =>
    match fs.locate true path with
    | .error e => .error (.system e)
    | .ok (.found _ .directory) => .error (.system .isDirectory)
    | .ok (.found _ .terminal) => .error (.system .noDevice)
    | .ok (.found path node) =>
      if fs.canWrite path node then .ok fs else .error (.system .permissionDenied)
    | .ok (.absent directory name) =>
      if !fs.isDirectory directory then .error (.system .noEntry)
      else if !fs.canChange directory then .error (.system .permissionDenied)
      else .ok (fs.add (directory ++ [name]) (.file [] newFileMode))

end FileSystem

end CommandShell
