import CommandShell.Builtin.Failure
import CommandShell.Session

/-!
# Handlers

What a builtin command does once it has its arguments: one act after the other on the regular
output and on the files, each chosen in the light of the answers so far, and a verdict at the end. A
handler has no part in the diagnostics, in the records and in the launching of programs, so whatever
it does, it does to the output and the files only. The commands of a table may do anything of that
form. A handler whose file is never opened, or never read to its end, does nothing after that and
comes to no verdict.
-/

namespace CommandShell

/-- What a command amounts to: whether the loop goes on, or why the command gave up. -/
abbrev Verdict := Except Failure Status

/-- The acts of a command, each followed by what its answer leads to. -/
inductive Handler where
  /-- The command is done. -/
  | done (v : Verdict)
  /-- Bytes are written as a whole. -/
  | print (bytes : Bytes) (next : Option IoError → Handler)
  /-- One write call is made, whatever comes of it. -/
  | offer (bytes : Bytes) (next : WriteAnswer → Handler)
  /-- The output is flushed. -/
  | flush (next : Option IoError → Handler)
  /-- A file is opened and read. -/
  | read (path : Bytes) (next : Except IoError Reading → Handler)
  /-- A file is opened to be appended to, and closed. -/
  | append (path : Bytes) (next : Except IoError Unit → Handler)
  /-- The files are changed in some other way. -/
  | change (f : FileSystem → FileSystem) (next : FileSystem → Handler)

namespace Handler

section

variable {σ τ ℓ : Type} [Sink σ] [Launcher ℓ]

/-- Carries out the acts of a handler in a session. There is a verdict if all of them return. -/
def run? : Handler → Session σ τ ℓ → Option Verdict × Session σ τ ℓ
  | .done v, s => (some v, s)
  | .print bytes next, s =>
    match s.print bytes with
    | (failure, s') => (next failure).run? s'
  | .offer bytes next, s =>
    match s.offer bytes with
    | (answer, s') => (next answer).run? s'
  | .flush next, s =>
    match s.flush with
    | (failure, s') => (next failure).run? s'
  | .read path next, s =>
    match s.readFile path with
    | (some answer, s') => (next answer).run? s'
    | (none, s') => (none, s')
  | .append path next, s =>
    match s.appendTo path with
    | (some answer, s') => (next answer).run? s'
    | (none, s') => (none, s')
  | .change f next, s => (next (f s.files)).run? (s.changeFiles f)

/-- Carries out the acts of a handler in a session. Without a verdict the loop is not told to
end. -/
def run (c : Handler) (s : Session σ τ ℓ) : Verdict × Session σ τ ℓ :=
  match c.run? s with
  | (v, s') => (v.getD (.ok .proceed), s')

variable (bytes path : Bytes) (s : Session σ τ ℓ)

theorem run_done (v : Verdict) : (done v).run s = (v, s) :=
  rfl

theorem run_print (next : Option IoError → Handler) :
    (print bytes next).run s =
      match s.print bytes with
      | (failure, s') => (next failure).run s' :=
  rfl

theorem run_offer (next : WriteAnswer → Handler) :
    (offer bytes next).run s =
      match s.offer bytes with
      | (answer, s') => (next answer).run s' :=
  rfl

theorem run_flush (next : Option IoError → Handler) :
    (flush next).run s =
      match s.flush with
      | (failure, s') => (next failure).run s' :=
  rfl

theorem run_read (next : Except IoError Reading → Handler) :
    (read path next).run s =
      match s.readFile path with
      | (some answer, s') => (next answer).run s'
      | (none, s') => (.ok .proceed, s') := by
  rw [run, run?]
  rcases s.readFile path with ⟨_ | answer, s'⟩ <;> rfl

theorem run_append (next : Except IoError Unit → Handler) :
    (append path next).run s =
      match s.appendTo path with
      | (some answer, s') => (next answer).run s'
      | (none, s') => (.ok .proceed, s') := by
  rw [run, run?]
  rcases s.appendTo path with ⟨_ | answer, s'⟩ <;> rfl

theorem run_change (f : FileSystem → FileSystem) (next : FileSystem → Handler) :
    (change f next).run s = (next (f s.files)).run (s.changeFiles f) :=
  rfl

theorem run_eq_of_run?_eq_some {c : Handler} {s s' : Session σ τ ℓ} {v : Verdict}
    (h : c.run? s = (some v, s')) : c.run s = (v, s') := by
  rw [run, h]
  rfl

/-- A failure is a verdict that a handler comes to itself. -/
theorem run_eq_error_iff {c : Handler} {s s' : Session σ τ ℓ} {f : Failure} :
    c.run s = (.error f, s') ↔ c.run? s = (some (.error f), s') := by
  rw [run]
  rcases c.run? s with ⟨_ | v, t⟩ <;> simp

end

end Handler

/-- Commands that have a handler for each argument vector, the name included. -/
class HasHandler (β : Type) where
  /-- What the command does with some arguments. -/
  handler : β → ArgVector → Handler

/-- A command may be given by its handlers alone. -/
instance : HasHandler (ArgVector → Handler) where
  handler := id

namespace Handler

/-- Prints texts one after the other, and goes on; a failure to print is the verdict. -/
def printTexts (next : Handler) : List String → Handler
  | [] => next
  | text :: rest =>
    .print (utf8 text) fun
      | some e => .done (.error (.output e))
      | none => printTexts next rest

/-- How many bytes of a file are read and printed at a time. -/
def blockSize : Nat := 8192

/-- Prints bytes block by block, up to the first block that is not taken. -/
def printBlocks (next : Option IoError → Handler) (bytes : Bytes) : Handler :=
  match bytes with
  | [] => next none
  | b :: rest =>
    .print ((b :: rest).take blockSize) fun
      | some e => next (some e)
      | none => printBlocks next (rest.drop (blockSize - 1))
termination_by bytes.length
decreasing_by simp only [List.length_drop, List.length_cons]; omega

/-- Prints what reading a file gives. Both a failure to read and a failure to print end it. -/
def printReading (r : Reading) (next : Option IoError → Handler) : Handler :=
  printBlocks (fun
    | some e => next (some e)
    | none => next r.failure) r.content

/-- Prints files in order, up to the first that cannot be opened or read. -/
def printFiles : List String → Handler
  | [] => .done (.ok .proceed)
  | path :: rest =>
    .read (utf8 path) fun
      | .error e => .done (.error (.cannotOpen path e))
      | .ok reading =>
        printReading reading fun
          | some e => .done (.error (.cannotRead path e))
          | none => printFiles rest

/-- Creates files in order, up to the first that cannot be opened. -/
def createFiles : List String → Handler
  | [] => .done (.ok .proceed)
  | path :: rest =>
    .append (utf8 path) fun
      | .error e => .done (.error (.cannotCreate path e))
      | .ok () => createFiles rest

/-- Prints bytes and comes to a verdict. -/
def printBytes (bytes : Bytes) (v : Verdict) : Handler :=
  .print bytes fun
    | some e => .done (.error (.output e))
    | none => .done v

end Handler

end CommandShell
