import CommandShell.Launcher
import CommandShell.Sink

/-!
# Sessions

A session is all that commands act on: the two output streams, the launcher, the files, and a
history of what happened. The history is what a theorem about the order of effects speaks of: it
says when the input was read, what the streams accepted, when the output was flushed and whether
that succeeded, what was launched, and which records were kept.
-/

namespace CommandShell

/-- Something that happened in a session. -/
inductive Event where
  /-- A line was asked for. -/
  | asked
  /-- The output accepted bytes. -/
  | output (bytes : Bytes)
  /-- The stream of diagnostics accepted bytes. -/
  | diagnostics (bytes : Bytes)
  /-- The output was flushed, with or without success. -/
  | flushed (success : Bool)
  /-- The launcher was called. -/
  | launched (args : ArgVector)
  /-- A launched program wrote bytes. -/
  | written (channel : Channel) (bytes : Bytes)
  /-- A record was kept. -/
  | noted (record : Record)
deriving DecidableEq, Repr

/-- The state of the interpreter while commands are executed. -/
structure Session (σ τ ℓ : Type) where
  /-- The stream of regular output. -/
  out : σ
  /-- The stream of diagnostics. -/
  err : τ
  /-- The launcher. -/
  launcher : ℓ
  /-- The files. -/
  files : FileSystem
  /-- Which records are kept. -/
  verbosity : Verbosity
  /-- What happened, newest first. -/
  history : List Event

namespace Session

variable {σ τ ℓ : Type}

/-- A session in which nothing has happened. -/
def start (out : σ) (err : τ) (launcher : ℓ) (files : FileSystem) (verbosity : Verbosity) :
    Session σ τ ℓ :=
  ⟨out, err, launcher, files, verbosity, []⟩

/-- Something happens. -/
def happen (s : Session σ τ ℓ) (e : Event) : Session σ τ ℓ :=
  { s with history := e :: s.history }

/-- A record is made, and kept if its level is. -/
def note (s : Session σ τ ℓ) (r : Record) : Session σ τ ℓ :=
  if s.verbosity.admits r.level then s.happen (.noted r) else s

/-- Records are made, one after the other. -/
def noteAll (s : Session σ τ ℓ) (rs : List Record) : Session σ τ ℓ :=
  rs.foldl note s

/-- The records of storing arguments are made. -/
def noteGrowth (s : Session σ τ ℓ) (args : ArgVector) : Session σ τ ℓ :=
  s.noteAll args.growthRecords

/-- Writes regular output; the answer is why that failed, if it did. -/
def print [Sink σ] (s : Session σ τ ℓ) (bytes : Bytes) : Option IoError × Session σ τ ℓ :=
  let w := Sink.writeAll s.out bytes
  let s' := { s with out := w.sink }
  (w.failure, if w.count = 0 then s' else s'.happen (.output (bytes.take w.count)))

/-- Prints texts one after the other; the answer is why that failed, if it did. -/
def printTexts [Sink σ] (s : Session σ τ ℓ) : List String → Option IoError × Session σ τ ℓ
  | [] => (none, s)
  | text :: rest =>
    match s.print (utf8 text) with
    | (some e, s') => (some e, s')
    | (none, s') => s'.printTexts rest

/-- Makes one write call on the regular output, whatever comes of it. -/
def offer [Sink σ] (s : Session σ τ ℓ) (bytes : Bytes) : WriteAnswer × Session σ τ ℓ :=
  match Sink.write s.out bytes with
  | (answer, out) =>
    let s' := { s with out := out }
    let taken := bytes.take answer.count
    (answer, if taken = [] then s' else s'.happen (.output taken))

/-- Flushes the regular output; the answer is why that failed, if it did. -/
def flush [Sink σ] (s : Session σ τ ℓ) : Option IoError × Session σ τ ℓ :=
  match Sink.flush s.out with
  | (failure, out) => (failure, ({ s with out := out }).happen (.flushed failure.isNone))

/-- Writes a diagnostic line and flushes it. A stream that does not take it is left alone.

The line is handed over as a whole. The interpreter formats it straight into the stream, which gets
the name, the separator, the pieces of the text and the end of the line one after the other, up to
the first that it does not take. The bytes are the same, and a stream takes the same of them unless
it tells apart how they are divided into calls. -/
def report [Sink τ] (s : Session σ τ ℓ) (text : String) : Session σ τ ℓ :=
  let line := utf8 ("lsh: " ++ text ++ "\n")
  let w := Sink.writeAll s.err line
  let err := if w.failure.isNone then (Sink.flush w.sink).2 else w.sink
  let s' := { s with err := err }
  if w.count = 0 then s' else s'.happen (.diagnostics (line.take w.count))

/-- Takes note of what came of something that was done beside running programs. -/
def takeAccess {α : Type} (s : Session σ τ ℓ) (r : AccessReport ℓ α) : Session σ τ ℓ :=
  r.written.foldl (fun s w => s.happen (.written w.1 w.2))
    { s with launcher := r.launcher, files := r.files }

/-- Opens a file and reads it, if that returns. -/
def readFile [Launcher ℓ] (s : Session σ τ ℓ) (path : Bytes) :
    Option (Except IoError Reading) × Session σ τ ℓ :=
  let r := Launcher.readFile s.launcher s.files path
  (r.result, s.takeAccess r)

/-- Opens a file to append to it, and closes it, if that returns. -/
def appendTo [Launcher ℓ] (s : Session σ τ ℓ) (path : Bytes) :
    Option (Except IoError Unit) × Session σ τ ℓ :=
  let r := Launcher.appendTo s.launcher s.files path
  (r.result, s.takeAccess r)

/-- Changes the files. -/
def changeFiles (s : Session σ τ ℓ) (f : FileSystem → FileSystem) : Session σ τ ℓ :=
  { s with files := f s.files }

/-- Lets the programs that go on in the background do so until all is quiet. -/
def settle [Launcher ℓ] (s : Session σ τ ℓ) : Session σ τ ℓ :=
  s.takeAccess (Launcher.settle s.launcher s.files)

/-- What happened, in order. -/
def events (s : Session σ τ ℓ) : List Event :=
  s.history.reverse

/-- The records that were kept, in order. -/
def records (s : Session σ τ ℓ) : List Record :=
  s.events.filterMap fun
    | .noted r => some r
    | _ => none

end Session

end CommandShell
