import CommandShell.Files.Walk

/-!
# Loading programs

A file can be executed if it is a program of the system, or if its first line names an interpreter,
which is then executed with the path of the file among its arguments. Of a file no more is looked at
than its first bytes. What a program is given, its arguments and its environment, has to fit into a
part of its stack.
-/

namespace CommandShell

/-- A program that can be executed, with its arguments, its own name first. -/
structure Image where
  /-- The name of the program. -/
  program : String
  /-- Where the program stands. -/
  place : Path
  /-- Its arguments. -/
  args : List Bytes
deriving DecidableEq, Repr

namespace Image

/-- The number of bytes that a string may have, with the byte zero after it. -/
def stringLimit : Nat := 131072

/-- The number of bytes that all strings and their addresses may have together. -/
def blockLimit : Nat := 0x200000

/-- The number of bytes of an address. -/
def addressSize : Nat := 8

/-- The number of files that may lead on to interpreters before a program is reached. -/
def interpreterLimit : Nat := 5

/-- The number of bytes that are looked at to find out how a file is executed. -/
def headSize : Nat := 256

/-- Whether a byte is a blank of the line that names an interpreter. -/
def isBlank (b : UInt8) : Bool :=
  b = 0x20 || b = 0x09

/-- Whether a byte ends the name of an interpreter. -/
def isTerminator (b : UInt8) : Bool :=
  isBlank b || b = 0

/-- A line without the blanks at its end. -/
def trimEnd (line : Bytes) : Bytes :=
  (line.reverse.dropWhile isBlank).reverse

/-- What the head of a file has after its first two bytes, if these ask for an interpreter, as far
as the end of the line. Without an end of the line the name must at least be seen to end. -/
def interpreterLine? (content : Bytes) : Option Bytes :=
  match content with
  | 0x23 :: 0x21 :: rest =>
    let padded := rest.take (headSize - 2) ++ List.replicate (headSize - 2 - rest.length) 0
    let line := padded.takeWhile fun b => b ≠ 0x0A ∧ b ≠ 0
    if padded[line.length]? = some 0x0A then
      let line := trimEnd line
      if line.all isBlank then none else some line
    else
      let name := padded.dropWhile isBlank
      if name.any isTerminator then some (trimEnd (padded.take (headSize - 3))) else none
  | _ => none

/-- The interpreter that a file names in its first line, and the argument that follows it there. -/
def interpreter? (content : Bytes) : Option (Bytes × List Bytes) :=
  (interpreterLine? content).map fun line =>
    let line := line.dropWhile isBlank
    let name := line.takeWhile fun b => !isTerminator b
    match line.drop name.length with
    | [] => (name, [])
    | b :: rest =>
      if b = 0 then (name, [])
      else
        let argument := (rest.dropWhile isBlank).takeWhile (· ≠ 0)
        (name, [argument])

/-- The number of bytes of strings, each with a byte zero after it. -/
def stringSize (strings : List Bytes) : Nat :=
  strings.foldl (fun n s => n + s.length + 1) 0

/-- Whether what a program is given fits. -/
def fits (room : Nat) (path : Bytes) (args environment : List Bytes) : Bool :=
  (args ++ environment).all (fun s => s.length < stringLimit) &&
    stringSize (path :: args ++ environment) ≤ room

/-- What is left for the strings of a program when their addresses are counted. -/
def roomFor (args environment : List Bytes) : Nat :=
  blockLimit - addressSize * (max args.length 1 + environment.length)

/-- The file that would be executed at a path, with its place. A file cannot be executed while it is
written to. -/
def executable (fs : FileSystem) (isBusy : Path → Bool) (path : Bytes) :
    Except Errno (Path × Node) :=
  match fs.locate false path with
  | .error e => .error e
  | .ok (.absent _ _) => .error .noEntry
  | .ok (.found place (.program name)) => .ok (place, .program name)
  | .ok (.found place (.file content mode)) =>
    if mode &&& 0o111 = 0 then .error .permissionDenied
    else if isBusy place then .error .textBusy
    else .ok (place, .file content mode)
  | .ok (.found _ _) => .error .permissionDenied

/-- Loads a file that was found at a path. -/
def loadFile (fs : FileSystem) (isBusy : Path → Bool) (fit : List Bytes → Bool) :
    Nat → Path × Node → Bytes → List Bytes → Except Errno Image
  | 0, _, _, _ => .error .tooManyLinks
  | fuel + 1, (place, node), path, args =>
    match node with
    | .program name => .ok ⟨name, place, args⟩
    | .file content _ =>
      match programIn? content, interpreter? content with
      | some name, _ => .ok ⟨name, place, args⟩
      | none, none => .error .execFormat
      | none, some (interpreter, options) =>
        let args := interpreter :: options ++ path :: args.tail
        if fit args then
          match executable fs isBusy interpreter with
          | .error e => .error e
          | .ok next => loadFile fs isBusy fit fuel next interpreter args
        else .error .argumentsTooLong
    | _ => .error .execFormat

/-- Loads the program at a path. -/
def load (fs : FileSystem) (isBusy : Path → Bool) (path : Bytes)
    (args environment : List Bytes) : Except Errno Image :=
  match executable fs isBusy path with
  | .error e => .error e
  | .ok found =>
    let fit := fun args' => fits (roomFor args environment) path args' environment
    if fit args then loadFile fs isBusy fit (interpreterLimit + 1) found path args
    else .error .argumentsTooLong

end Image

end CommandShell
