import CommandShell.Signal
import CommandShell.IoError

/-!
# How commands end

A launched program exits with a status or is ended by a signal, or it could not be launched or
waited for. The loop either goes on after a command or stops.
-/

namespace CommandShell

/-- How a launched program ended. -/
inductive Outcome where
  /-- It exited with a status. -/
  | exited (status : Int)
  /-- A signal ended it. -/
  | signaled (signal : Signal)
deriving DecidableEq, Repr

/-- Whether the loop goes on after a command. -/
inductive Status where
  /-- The next line is read. -/
  | proceed
  /-- The loop ends. -/
  | stop
deriving DecidableEq, Repr

/-- What can go wrong between a line and the program it names. Only a failure of memory or of the
streams of the interpreter ends it; the others concern one command. -/
inductive ShellError where
  /-- There was no memory for a longer line or more arguments. -/
  | allocation
  /-- The input could not be read or the output not written. -/
  | io (e : IoError)
  /-- No process could be made. -/
  | fork (e : Errno)
  /-- The end of a process could not be observed. -/
  | wait (e : Errno)
  /-- An argument of the named command cannot be passed to a program. -/
  | invalidArgument (name : String)
deriving DecidableEq, Repr

/-- The wording of an error. -/
def ShellError.message : ShellError → String
  | .allocation =>
    "allocation error: memory allocation failed because the computed capacity exceeded the " ++
      "collection's maximum"
  | .io e => "I/O error: " ++ e.message
  | .fork e => "fork: " ++ e.message
  | .wait e => "wait: " ++ e.message
  | .invalidArgument name => name ++ ": argument contains a NUL byte"

end CommandShell
