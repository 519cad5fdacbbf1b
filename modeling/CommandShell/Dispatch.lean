import CommandShell.Table
import CommandShell.Text.Quoted

/-!
# Executing commands

A command whose name is in the table is executed by the interpreter; any other is handed to the
launcher, after everything printed so far was flushed. Only a builtin command can end the loop. What
goes wrong is reported in one line, and the loop goes on. A command may also never come to an end,
and then nothing more is done.
-/

namespace CommandShell

/-! ### Records of executing commands -/

namespace Record

/-- A builtin command is executed. -/
def builtin (name : String) : Record :=
  ⟨.debug, "builtin " ++ name⟩

/-- The output could not be flushed before a launch. -/
def flushFailed (name : String) (e : IoError) : Record :=
  ⟨.debug, "flush before launching " ++ name ++ " failed: " ++ e.message⟩

/-- A program is launched. -/
def launching (args : ArgVector) : Record :=
  ⟨.debug, "launching " ++ .ofList (Text.quotedList args)⟩

/-- A program has ended. -/
def ended (name : String) : Outcome → Record
  | .exited status =>
    if status = 0 then ⟨.debug, name ++ " exited successfully"⟩
    else ⟨.info, name ++ " exited with status " ++ toString status⟩
  | .signaled signal => ⟨.warn, name ++ " terminated by " ++ signal.name⟩

end Record

namespace Session

variable {β σ τ ℓ : Type} [HasHandler β] [Sink σ] [Sink τ] [Launcher ℓ]

/-- Executes a builtin command; a failure is reported. -/
def runBuiltin (s : Session σ τ ℓ) (b : β) (args : ArgVector) : Status × Session σ τ ℓ :=
  match (HasHandler.handler b args).run s with
  | (.ok status, s') => (status, s')
  | (.error f, s') => (.proceed, s'.report f.message)

/-- Hands arguments to the launcher. What comes of it is known if the launch returns. -/
def launch (s : Session σ τ ℓ) (args : ArgVector) :
    Option (Except ShellError Outcome) × Session σ τ ℓ :=
  let r := Launcher.launch s.launcher s.files args
  let s' := ({ s with launcher := r.launcher, files := r.files }).happen (.launched args)
  let s'' := s'.noteAll r.records
  (r.result, r.written.foldl (fun s w => s.happen (.written w.1 w.2)) s'')

/-- Flushes the output so that it comes before what a program writes. -/
def flushBeforeLaunch (s : Session σ τ ℓ) (name : String) : Session σ τ ℓ :=
  match s.flush with
  | (none, s') => s'
  | (some e, s') => s'.note (.flushFailed name e)

/-- Launches a program and tells how it ended, if the launch returns. -/
def runProgram (s : Session σ τ ℓ) (name : Bytes) (args : ArgVector) : Session σ τ ℓ :=
  let shown := Text.display name
  match ((s.flushBeforeLaunch shown).note (.launching args)).launch args with
  | (some (.ok outcome), s') => s'.note (.ended shown outcome)
  | (some (.error e), s') => s'.report e.message
  | (none, s') => s'

/-- Executes a command. Nothing happens without a name. -/
def execute (table : Table β) (args : ArgVector) (s : Session σ τ ℓ) : Status × Session σ τ ℓ :=
  match args.command? with
  | none => (.proceed, s)
  | some name =>
    match table.builtin? name with
    | some b => (s.note (.builtin (Text.display name))).runBuiltin b args
    | none => (.proceed, s.runProgram name args)

end Session

end CommandShell
