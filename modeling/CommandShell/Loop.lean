import CommandShell.Dispatch
import CommandShell.Line

/-!
# The loop of the interpreter

Until a command stops it or the input ends, the interpreter prints its prompt, reads a line, cuts
it into arguments and executes them, and flushes the output. It fails only if the input cannot be
read, or the prompt cannot be written, or the output cannot be flushed after the prompt or after a
command. A program can end the interpreter with a signal, or keep it from ever going on; nothing
happens after that.
-/

namespace CommandShell

namespace Record

/-- The arguments of a line. -/
def arguments (args : ArgVector) : Record :=
  ⟨.debug, "arguments: " ++ .ofList (Text.quotedList args)⟩

/-- The input has ended. -/
def endOfInput : Record :=
  ⟨.info, "end of input"⟩

/-- A command has ended the loop. -/
def exitRequested : Record :=
  ⟨.info, "exit requested"⟩

end Record

/-- How the loop ended, or what it had come to when the interpreter departed. -/
structure Run (σ τ ℓ : Type) where
  /-- Why it failed, if it did. -/
  failure : Option ShellError
  /-- What is left of the input. -/
  input : Input
  /-- The session afterwards. -/
  session : Session σ τ ℓ

namespace Session

variable {β σ τ ℓ : Type} [HasHandler β] [Sink σ] [Sink τ] [Launcher ℓ]

/-- Writes the current directory, if there is one, and what follows it in the prompt. A directory
that is no text is shown in one piece here, where the interpreter writes its parts one by one. -/
def printDirectory (s : Session σ τ ℓ) : Option IoError × Session σ τ ℓ :=
  match s.files.currentDirectory? with
  | some directory => s.printTexts [Text.display directory, " ~ "]
  | none => (none, s)

/-- Prints the prompt, if there is to be one, and flushes it. -/
def prompt (s : Session σ τ ℓ) (wanted : Bool) : Option IoError × Session σ τ ℓ :=
  if wanted then
    match s.printDirectory with
    | (some e, s') => (some e, s')
    | (none, s') => s'.flush
  else (none, s)

/-- Cuts a line into arguments and executes them. -/
def executeLine (table : Table β) (line : Bytes) (s : Session σ τ ℓ) : Status × Session σ τ ℓ :=
  let args := ArgVector.ofLine line
  ((s.noteGrowth args).note (.arguments args)).execute table args

/-- Executes lines until a command stops the loop, the input ends, or something fails. -/
def run (table : Table β) (prompting : Bool) (input : Input) (s : Session σ τ ℓ) : Run σ τ ℓ :=
  match s.prompt prompting with
  | (some e, s') => ⟨some (.io e), input, s'⟩
  | (none, s') =>
    let read := input.readLine
    let s'' := (s'.happen .asked).noteAll read.records
    match _h : read.result with
    | .failed e => ⟨some (.io e), read.input, s''⟩
    | .ended => ⟨none, read.input, s''.note .endOfInput⟩
    | .line line =>
      match s''.executeLine table line with
      | (status, after) =>
        if (Launcher.departure? after.launcher).isSome then ⟨none, read.input, after⟩
        else
          match after.flush with
          | (some e, flushed) => ⟨some (.io e), read.input, flushed⟩
          | (none, flushed) =>
            match status with
            | .stop => ⟨none, read.input, flushed.note .exitRequested⟩
            | .proceed => run table prompting read.input flushed
termination_by input.remaining
decreasing_by exact LineRead.remaining_readLine_lt _h

end Session

end CommandShell
