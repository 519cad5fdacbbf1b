import CommandShell.Outcome
import CommandShell.Record

/-!
# Waiting for a process

The launcher waits for its process again and again until it learns that the process has ended, or
that this cannot be learned. In between it may be told that the process was stopped or continued,
and a wait may be interrupted.
-/

namespace CommandShell

/-- The answer to a wait for a process. -/
inductive WaitAnswer where
  /-- The process has exited with a status. -/
  | exited (status : Int)
  /-- A signal has ended the process. -/
  | signaled (signal : Signal) (coreDumped : Bool)
  /-- A signal has stopped the process. -/
  | stopped (signal : Signal)
  /-- A tracer stopped the process for an event. -/
  | tracedEvent (signal : Signal) (event : Int)
  /-- A tracer stopped the process at a system call. -/
  | tracedCall
  /-- The process was continued. -/
  | continued
  /-- There is nothing new about the process. -/
  | stillAlive
  /-- The wait failed. -/
  | failed (e : Errno)
deriving DecidableEq, Repr

namespace WaitAnswer

/-- The answer that a signal of a number has ended the process. Real-time signals have no name, and
are answered as if the wait was at fault. -/
def ofSignalNumber (n : Nat) : WaitAnswer :=
  match Signal.ofNumber? n with
  | some s => .signaled s false
  | none => .failed .invalidArgument

/-- Whether a process can still change after an answer. -/
inductive Finality where
  /-- There is nothing more to wait for. -/
  | final (result : Except ShellError Outcome)
  /-- The process goes on. -/
  | transient
  /-- The wait was interrupted. -/
  | interrupted

/-- What an answer says about the end of the process. -/
def finality : WaitAnswer → Finality
  | exited status => .final (.ok (.exited status))
  | signaled signal _ => .final (.ok (.signaled signal))
  | failed e => if e = .interrupted then .interrupted else .final (.error (.wait e))
  | _ => .transient

/-- An answer as records show it. -/
def shown (pid : Nat) : WaitAnswer → String
  | exited status => "Exited(Pid(" ++ toString pid ++ "), " ++ toString status ++ ")"
  | signaled signal core =>
    "Signaled(Pid(" ++ toString pid ++ "), " ++ signal.name ++ ", " ++ toString core ++ ")"
  | stopped signal => "Stopped(Pid(" ++ toString pid ++ "), " ++ signal.name ++ ")"
  | tracedEvent signal event =>
    "PtraceEvent(Pid(" ++ toString pid ++ "), " ++ signal.name ++ ", " ++ toString event ++ ")"
  | tracedCall => "PtraceSyscall(Pid(" ++ toString pid ++ "))"
  | continued => "Continued(Pid(" ++ toString pid ++ "))"
  | stillAlive => "StillAlive"
  | failed e => e.message

end WaitAnswer

/-- The record that a process has not ended yet. -/
def Record.unfinished (pid : Nat) (a : WaitAnswer) : Record :=
  ⟨.debug, "pid " ++ toString pid ++ " not finished yet: " ++ a.shown pid⟩

/-- The result of waiting for a process. -/
structure Waited where
  /-- What was learned of its end. -/
  result : Except ShellError Outcome
  /-- The number of waits. -/
  waits : Nat
  /-- The records made on the way. -/
  records : List Record

/-- Waits for a process that answers the waits in order. When the answers are used up, there is no
process left to wait for. -/
def Waited.ofAnswers (pid : Nat) : List WaitAnswer → Waited
  | [] => ⟨.error (.wait .noChild), 1, []⟩
  | answer :: rest =>
    match answer.finality with
    | .final result => ⟨result, 1, []⟩
    | .transient =>
      let w := ofAnswers pid rest
      ⟨w.result, w.waits + 1, .unfinished pid answer :: w.records⟩
    | .interrupted =>
      let w := ofAnswers pid rest
      ⟨w.result, w.waits + 1, w.records⟩

end CommandShell
