import CommandShell.Launch.ArgBlock
import CommandShell.Launch.Wait
import CommandShell.Text.Utf8

/-!
# Launching a process

A process is made only for arguments that a program can be given: there has to be a name, and no
argument may contain a byte zero. All that depends on the system is what it answers when a process
is asked for and each time it is waited for.
-/

namespace CommandShell

/-- What the system answers to a launch. -/
structure KernelAnswers where
  /-- The number of the new process, or why there is none. -/
  fork : Except Errno Nat
  /-- The answers to the waits for the process. -/
  waits : List WaitAnswer

/-- What a launch did. -/
structure Attempt where
  /-- The arguments for which a process was asked for, if one was. -/
  forked : Option ArgBlock
  /-- The number of waits. -/
  waits : Nat
  /-- How the program ended, or what went wrong. -/
  result : Except ShellError Outcome
  /-- The records made on the way. -/
  records : List Record

/-- The record that a process was made. -/
def Record.started (name : String) (pid : Nat) : Record :=
  ⟨.debug, "started " ++ name ++ " as pid " ++ toString pid⟩

namespace ArgVector

/-- The block for a program of these arguments, if it can be given them. -/
def block (args : ArgVector) : Except ShellError ArgBlock :=
  match args with
  | [] => .error (.invalidArgument "")
  | name :: _ =>
    if args.any (·.contains 0) then .error (.invalidArgument (Text.display name))
    else .ok (.ofArgs args)

end ArgVector

/-- Launches a program on a system that answers in a given way. -/
def Attempt.ofAnswers (args : ArgVector) (answers : ArgBlock → KernelAnswers) : Attempt :=
  match args.block with
  | .error e => ⟨none, 0, .error e, []⟩
  | .ok block =>
    match (answers block).fork with
    | .error e => ⟨some block, 0, .error (.fork e), []⟩
    | .ok pid =>
      let w := Waited.ofAnswers pid (answers block).waits
      ⟨some block, w.waits, w.result, .started (Text.display (args.headD [])) pid :: w.records⟩

end CommandShell
