import CommandShell.Machine.Call
import CommandShell.Tool.Quote

/-!
# How tools work

A tool is a program that does one thing with its arguments. Its output is put together before it is
written; its complaints are written at once, after the output so far. When it ends, what is left of
the output is written, and output that was not taken makes it fail.
-/

namespace CommandShell.Tool

/-- What a tool has at hand. -/
structure Desk where
  /-- The name that it was called by. -/
  name : Bytes
  /-- The environment. -/
  environment : List Bytes
  /-- Output that is not yet written, last first. -/
  pending : List Bytes
  /-- The number of its bytes. -/
  size : Nat
  /-- Whether some output was not taken. -/
  refused : Bool
  /-- The status so far. -/
  status : Nat
  /-- The status if output is not taken. -/
  failure : Nat

/-- The work of a tool, which may end early. -/
abbrev Work (α : Type) : Type :=
  ExceptT Unit (StateT Desk Program) α

namespace Work

/-- Asks the system for something. -/
def call (c : Call) : Work c.Reply :=
  ExceptT.lift (StateT.lift (Program.call c))

/-- The work ends with its status so far. -/
def stop {α : Type} : Work α :=
  throw ()

/-- The work ends with a status. -/
def exit {α : Type} (status : Nat) : Work α := do
  modify fun d => { d with status := status }
  stop

/-- Something has failed. -/
def fault (status : Nat) : Work Unit :=
  modify fun d => { d with status := max d.status status }

/-- Writes the output so far; the answer is why it was not taken. -/
def flush : Work (Option Errno) := do
  let d ← get
  if d.size = 0 then return none
  else
    set { d with pending := [], size := 0 }
    match ← call (.write 1 d.pending.reverse.flatten) with
    | .ok () => return none
    | .error e =>
      modify fun d => { d with refused := true }
      return some e

/-- The number of bytes of output that are put together. -/
def roomSize : Nat := 4096

/-- Adds to the output. The answer is why some output was not taken. -/
def putChecked (bytes : Bytes) : Work (Option Errno) := do
  let n := bytes.length
  if n = 0 then return none
  else
    let d ← get
    if d.size + n ≤ roomSize then
      set { d with pending := bytes :: d.pending, size := d.size + n }
      return none
    else
      let all := (bytes :: d.pending).reverse.flatten
      let now := all.take (all.length / roomSize * roomSize)
      let rest := all.drop now.length
      set { d with pending := [rest], size := rest.length }
      match ← call (.write 1 now) with
      | .ok () => return none
      | .error e =>
        modify fun d => { d with refused := true }
        return some e

/-- Adds to the output. -/
def put (bytes : Bytes) : Work Unit := do
  let _ ← putChecked bytes

/-- Adds a line to the output. -/
def putLine (bytes : Bytes) : Work Unit :=
  put (bytes ++ [0x0A])

/-- Writes to the stream of complaints as it is. -/
def emit (bytes : Bytes) : Work Unit := do
  let _ ← call (.write 2 bytes)

/-- A complaint, after the name of the tool. -/
def say (what : Bytes) : Work Unit := do
  let _ ← flush
  emit ((← get).name ++ utf8 ": " ++ what ++ [0x0A])

/-- A complaint, and the tool will fail. -/
def complain (what : Bytes) : Work Unit := do
  say what
  fault 1

/-- A complaint with a reason, and the tool will fail. -/
def complainOf (what : Bytes) (e : Errno) : Work Unit :=
  complain (what ++ utf8 (": " ++ e.libraryText))

/-- A complaint that something could not be done with a path, with a reason. -/
def complainAbout (what : String) (path : Bytes) (e : Errno) : Work Unit :=
  complainOf (utf8 (what ++ " ") ++ Quote.shell path) e

/-- A complaint, and the end of the work with a status. -/
def fail {α : Type} (status : Nat) (what : Bytes) : Work α := do
  say what
  exit status

/-- Says where help is to be found, and ends. -/
def refer {α : Type} (status : Nat) : Work α := do
  emit (utf8 "Try '" ++ (← get).name ++ utf8 " --help' for more information.\n")
  exit status

/-- A complaint about how the tool was called, and the end of the work with a status. -/
def misused {α : Type} (status : Nat) (what : Bytes) : Work α := do
  say what
  refer status

/-- The value of a variable of the environment. -/
def setting? (name : String) : Work (Option Bytes) := do
  let front := utf8 (name ++ "=")
  return ((← get).environment.find? (front.isPrefixOf ·)).map (·.drop front.length)

/-- Asks a question; the answer is the first byte of a line of the input. -/
def agrees (question : Bytes) : Work Bool := do
  let _ ← flush
  emit ((← get).name ++ utf8 ": " ++ question ++ utf8 "? ")
  let answer ← lineBytes 0x10000 []
  let first := answer.head?
  return first = some 0x79 || first = some 0x59
where
  /-- Reads the rest of a line. -/
  lineBytes : Nat → Bytes → Work Bytes
    | 0, done => return done.reverse
    | fuel + 1, done => do
      match ← call (.read 0 1) with
      | .ok (b :: _) => if b = 0x0A then return done.reverse else lineBytes fuel (b :: done)
      | _ => return done.reverse

/-- What is said about output that was not taken. -/
def refusal : Bytes := utf8 "write error"

/-- What is left to do at the end: the output is written, and it is a failure if some of it was not
taken. -/
def conclude : StateT Desk Program Nat := do
  let before := (← get).refused
  let r ← (flush : Work (Option Errno)).run
  let d ← get
  let write : Bytes → StateT Desk Program Unit := fun bytes => do
    let _ ← StateT.lift (Program.call (.write 2 bytes))
  match r with
  | .ok (some e) =>
    write (d.name ++ utf8 ": " ++ refusal ++ utf8 (": " ++ e.libraryText ++ "\n"))
    return d.failure
  | _ =>
    if before then
      let reason := match ← StateT.lift (Program.call (.factsOf 1)) with
        | .ok _ => ""
        | .error e => ": " ++ e.libraryText
      write (d.name ++ utf8 ": " ++ refusal ++ utf8 (reason ++ "\n"))
      return d.failure
    else return d.status

/-- A tool as a program. -/
def task (failure : Nat) (work : List Bytes → Work Unit) (args environment : List Bytes) : Task :=
  Program.task fun next =>
    let whole : StateT Desk Program Nat := do
      let _ ← (work args.tail).run
      conclude
    whole ⟨args.headD [], environment, [], 0, false, 0, failure⟩ fun r => next r.1

end Work

end CommandShell.Tool
