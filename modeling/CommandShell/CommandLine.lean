import CommandShell.Config
import CommandShell.Loop
import CommandShell.Machine
import CommandShell.Sink.LineBuffered
import CommandShell.Sink.Limited
import CommandShell.Transcript

/-!
# The program

The interpreter as a program: it reads its arguments, and unless they ask for help or are refused,
it executes the lines of its input. It exits with success unless its arguments are refused or the
loop fails; the commands that it executes have no say in that, unless one of them ends it with a
signal or keeps it from ever coming to its end.
-/

namespace CommandShell

/-- What a run of the program comes to. -/
structure ProgramRun where
  /-- How it ends, if it does. -/
  ending? : Option Ending
  /-- What was written on the output. -/
  output : Bytes
  /-- What was written among the diagnostics. -/
  diagnostics : Bytes
  /-- The files afterwards. -/
  files : FileSystem

namespace ProgramRun

/-- How a run ends for an observer who kills a program that never does. -/
def ending (p : ProgramRun) : Ending :=
  p.ending?.getD (.killed Signal.kill.number)

/-- The name of the program. -/
def programName : String := "lsh"

/-- The arguments as texts, or the first that is none, shown as a text. -/
def texts : List Bytes → Except String (List String)
  | [] => .ok []
  | argument :: rest =>
    match Text.decode? argument with
    | none => .error (Text.display argument)
    | some text =>
      match texts rest with
      | .error shown => .error shown
      | .ok others => .ok (.ofList text :: others)

/-- The record of a loop that failed. -/
def failureRecord (e : ShellError) : Record :=
  ⟨.error, e.message⟩

/-- Executes the lines of the input under a configuration. What programs write in the background
after the interpreter has ended or departed belongs to the run. -/
def ofConfig {σ ℓ : Type} [Sink σ] [Launcher ℓ] (config : Config) (out : σ) (launcher : ℓ)
    (files : FileSystem) (input : Input) : ProgramRun :=
  let session := Session.start out LimitedSink.unlimited launcher files config.verbosity
  let r := session.run .standard (!config.noPrompt) input
  let (ending?, ended) := match Launcher.departure? r.session.launcher, r.failure with
    | some (.killed signal), _ => (some (Ending.killed signal), r.session)
    | some .stuck, _ => (none, r.session)
    | none, none => (some (.exited 0), r.session)
    | none, some e => (some (.exited 1), r.session.note (failureRecord e))
  let after := ended.settle
  ⟨ending?, after.outputBytes, after.diagnosticsBytes, after.files⟩

/-- Runs the program on an output stream. -/
def ofArguments {σ ℓ : Type} [Sink σ] [Launcher ℓ] (arguments : List Bytes) (out : σ)
    (launcher : ℓ) (files : FileSystem) (input : Input) : ProgramRun :=
  match texts arguments with
  | .error shown => ⟨some (.exited 1), [], utf8 ("Invalid utf8: " ++ shown ++ "\n"), files⟩
  | .ok arguments =>
    match Config.ofArguments arguments with
    | .help => ⟨some (.exited 0), utf8 (Config.helpText programName ++ "\n"), [], files⟩
    | .refused r =>
      let said := r.message ++ "\nRun " ++ programName ++ " --help for more information.\n"
      ⟨some (.exited 1), [], utf8 said, files⟩
    | .run config => ofConfig config out launcher files input

end ProgramRun

end CommandShell
