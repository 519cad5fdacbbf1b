import CommandShell.Tool.Number

/-!
# Reading files

Files are read in portions, so that a tool takes no more of its input than it needs. A line goes as
far as a byte that ends it, or as far as the file.
-/

namespace CommandShell.Tool

/-- An open file that is being read. -/
structure Source where
  /-- Its number. -/
  fd : Nat
  /-- What was read and is not yet used. -/
  left : Bytes
  /-- Whether nothing follows that. -/
  ended : Bool
  /-- Why nothing follows, if that is an error. -/
  failure : Option Errno

/-- A line. -/
structure TextLine where
  /-- Its bytes, without its end. -/
  bytes : Bytes
  /-- Whether it has an end. -/
  ended : Bool

namespace TextLine

/-- A line as it is in the file. -/
def whole (l : TextLine) (ending : UInt8) : Bytes :=
  if l.ended then l.bytes ++ [ending] else l.bytes

end TextLine

namespace Source

/-- A file of which nothing is read yet. -/
def ofOpen (fd : Nat) : Source :=
  ⟨fd, [], false, none⟩

/-- The number of bytes that are read at once. -/
def portion : Nat := 32768

/-- More portions than any file has. -/
def portions : Nat := 0x10000000

/-- Reads a portion. -/
def more (s : Source) : Work Source := do
  if s.ended then return s
  else
    match ← Work.call (.read s.fd portion) with
    | .ok [] => return { s with ended := true }
    | .ok bytes => return { s with left := s.left ++ bytes }
    | .error e => return { s with ended := true, failure := some e }

/-- What is read and not yet used, after one more portion if that is nothing. -/
def chunk (s : Source) : Work (Bytes × Source) := do
  let s ← if s.left = [] then s.more else pure s
  return (s.left, { s with left := [] })

/-- Reads a line, if there is one. -/
def lineFrom (ending : UInt8) : Nat → List Bytes → Source → Work (Option TextLine × Source)
  | 0, _, s => return (none, s)
  | fuel + 1, front, s => do
    let (bytes, s) ← s.chunk
    if bytes = [] then
      let line := front.reverse.flatten
      return (if line = [] then none else some ⟨line, false⟩, s)
    else
      let here := bytes.takeWhile (· ≠ ending)
      match bytes.drop here.length with
      | [] => lineFrom ending fuel (here :: front) s
      | _ :: rest =>
        return (some ⟨(here :: front).reverse.flatten, true⟩, { s with left := rest })

/-- Reads a line, if there is one. -/
def line (ending : UInt8) (s : Source) : Work (Option TextLine × Source) :=
  lineFrom ending portions [] s

/-- Goes through the lines with a state. -/
def foldLinesFrom {σ : Type} (ending : UInt8) (act : σ → TextLine → Work σ) :
    Nat → σ → Source → Work (σ × Source)
  | 0, state, s => return (state, s)
  | fuel + 1, state, s => do
    match ← s.line ending with
    | (none, s) => return (state, s)
    | (some l, s) => foldLinesFrom ending act fuel (← act state l) s

/-- Goes through the lines with a state. -/
def foldLines {σ : Type} (s : Source) (ending : UInt8) (state : σ)
    (act : σ → TextLine → Work σ) : Work (σ × Source) :=
  foldLinesFrom ending act portions state s

/-- Reads everything. -/
def restFrom : Nat → List Bytes → Source → Work (Bytes × Source)
  | 0, front, s => return (front.reverse.flatten, s)
  | fuel + 1, front, s => do
    let (bytes, s) ← s.chunk
    if bytes = [] then return (front.reverse.flatten, s)
    else restFrom fuel (bytes :: front) s

/-- Reads everything. -/
def rest (s : Source) : Work (Bytes × Source) :=
  restFrom portions [] s

end Source

/-- The lines of a text. -/
def linesFrom (ending : UInt8) : Nat → Bytes → List TextLine
  | 0, _ => []
  | fuel + 1, text =>
    match text with
    | [] => []
    | _ =>
      let here := text.takeWhile (· ≠ ending)
      match text.drop here.length with
      | [] => [⟨here, false⟩]
      | _ :: rest => ⟨here, true⟩ :: linesFrom ending fuel rest

/-- The lines of a text. -/
def linesOf (ending : UInt8) (text : Bytes) : List TextLine :=
  linesFrom ending (text.length + 1) text

namespace Work

/-- The name that stands for the input. -/
def isInput (name : Bytes) : Bool :=
  name = [0x2D]

/-- Opens a file to read it; a dash stands for the input. -/
def openInput (name : Bytes) : Work (Except Errno Nat) :=
  if isInput name then return .ok 0 else call (.openFile name .reading)

/-- Closes a file that was read, unless it is the input. -/
def closeInput (name : Bytes) (fd : Nat) : Work Unit := do
  if !isInput name then let _ ← call (.close fd)

/-- Says that the input is not open, if it is among some files and is not. -/
def leaveInput (what : Bytes) (names : List Bytes) : Work Unit := do
  if names.any isInput then
    match ← call (.factsOf 0) with
    | .ok _ => return ()
    | .error e => complainOf what e

/-- The files that a tool is to read: the operands, or the input if there are none. -/
def inputsOf (operands : List Bytes) : List Bytes :=
  if operands = [] then [[0x2D]] else operands

/-- The content of a file, or why it cannot be read. -/
def contentOf (name : Bytes) : Work (Except Errno Bytes) := do
  match ← openInput name with
  | .error e => return .error e
  | .ok fd =>
    let (bytes, s) ← (Source.ofOpen fd).rest
    closeInput name fd
    match s.failure with
    | some e => return .error e
    | none => return .ok bytes

/-- Goes through the lines of files with a state; of each file that cannot be read this is said. -/
def foldFiles {σ : Type} (ending : UInt8) (act : σ → TextLine → Work σ) :
    σ → List Bytes → Work σ
  | state, [] => return state
  | state, name :: rest => do
    match ← openInput name with
    | .error e =>
      complainOf (Quote.name name) e
      foldFiles ending act state rest
    | .ok fd =>
      let (state, s) ← (Source.ofOpen fd).foldLines ending state act
      closeInput name fd
      match s.failure with
      | some e => complainOf (Quote.name name) e
      | none => pure ()
      foldFiles ending act state rest

/-- The names that a file tells, each with a zero behind it, and what is wrong with those that
cannot be names. What the input tells cannot be the input. -/
def namesIn (source content : Bytes) : List (Except Bytes Bytes) :=
  (linesOf 0 content).zipIdx.map fun (line, i) =>
    if isInput source ∧ isInput line.bytes then
      .error (utf8 "when reading file names from stdin, no file name of '-' allowed")
    else if line.bytes = [] then
      .error (Quote.name source ++ utf8 s!":{i + 1}: invalid zero-length file name")
    else .ok line.bytes

/-- A complaint that files are named where they are told. -/
def namedTwice {α : Type} (status : Nat) (operand : Bytes) : Work α := do
  say (utf8 "extra operand " ++ Quote.shell operand)
  emit (utf8 "file operands cannot be combined with --files0-from\n")
  refer status

end Work

end CommandShell.Tool
