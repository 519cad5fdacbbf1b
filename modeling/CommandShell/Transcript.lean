import CommandShell.Dispatch

/-!
# Transcripts

What an observer sees of a session who watches the two streams, the flushes of the output and the
launches: bytes that follow each other on one stream are seen as one piece. An observer who has only
the two streams of the process sees what the interpreter and its programs wrote, with the records
among the diagnostics. An observer does not wait for ever, and kills what never comes to an end.
-/

namespace CommandShell

/-- Something that an observer sees. -/
inductive Sight where
  /-- Bytes on the output. -/
  | output (bytes : Bytes)
  /-- Bytes among the diagnostics. -/
  | diagnostics (bytes : Bytes)
  /-- A flush of the output. -/
  | flush
  /-- A launch. -/
  | launch (args : ArgVector)
deriving DecidableEq, Repr

namespace Sight

/-- Puts bytes on the output in front of what follows. -/
def prependOutput (bytes : Bytes) : List Sight → List Sight
  | output next :: rest => output (bytes ++ next) :: rest
  | rest => output bytes :: rest

/-- Puts bytes among the diagnostics in front of what follows. -/
def prependDiagnostics (bytes : Bytes) : List Sight → List Sight
  | diagnostics next :: rest => diagnostics (bytes ++ next) :: rest
  | rest => diagnostics bytes :: rest

/-- What is seen of an event and of what follows it. -/
def prepend (e : Event) (rest : List Sight) : List Sight :=
  match e with
  | .output bytes => prependOutput bytes rest
  | .diagnostics bytes => prependDiagnostics bytes rest
  | .flushed _ => flush :: rest
  | .launched args => launch args :: rest
  | .asked => rest
  | .written _ _ => rest
  | .noted _ => rest

end Sight

namespace Event

/-- What an observer sees of events. -/
def sights (events : List Event) : List Sight :=
  events.foldr Sight.prepend []

/-- What an event adds to the output of the process. -/
def onOutput : Event → Bytes
  | output bytes => bytes
  | written .output bytes => bytes
  | _ => []

/-- What an event adds to the diagnostics of the process. -/
def onDiagnostics : Event → Bytes
  | diagnostics bytes => bytes
  | written .diagnostics bytes => bytes
  | noted r => utf8 r.line
  | _ => []

end Event

namespace Session

variable {σ τ ℓ : Type}

/-- What an observer sees of a session. -/
def sights (s : Session σ τ ℓ) : List Sight :=
  Event.sights s.events

/-- The output of the process. -/
def outputBytes (s : Session σ τ ℓ) : Bytes :=
  s.events.flatMap Event.onOutput

/-- The diagnostics of the process. -/
def diagnosticsBytes (s : Session σ τ ℓ) : Bytes :=
  s.events.flatMap Event.onDiagnostics

/-- What an observer learns of a launch, who kills a program whose launch never returns. -/
def callLauncher [Launcher ℓ] (s : Session σ τ ℓ) (args : ArgVector) :
    Except ShellError Outcome × Session σ τ ℓ :=
  let (result, s') := s.launch args
  (result.getD (.ok (.signaled .kill)), s')

/-- The lines of the records that were kept. -/
def recordLines (s : Session σ τ ℓ) : String :=
  String.join (s.records.map Record.line)

end Session

end CommandShell
