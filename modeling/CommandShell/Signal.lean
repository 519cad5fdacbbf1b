/-!
# Signals

The signals that have a name, in the order of their numbers (1 to 31, those of Linux). Signals
above them are the real-time signals, which have a number only.
-/

namespace CommandShell

/-- A signal with a name. -/
inductive Signal where
  | hup | int | quit | ill | trap | abrt | bus | fpe | kill | usr1 | segv | usr2 | pipe | alrm
  | term | stkflt | chld | cont | stop | tstp | ttin | ttou | urg | xcpu | xfsz | vtalrm | prof
  | winch | io | pwr | sys
deriving DecidableEq, Repr

namespace Signal

/-- All signals with a name, in the order of their numbers. -/
def all : List Signal :=
  [hup, int, quit, ill, trap, abrt, bus, fpe, kill, usr1, segv, usr2, pipe, alrm, term, stkflt,
   chld, cont, stop, tstp, ttin, ttou, urg, xcpu, xfsz, vtalrm, prof, winch, io, pwr, sys]

/-- The name of a signal without the letters that all names begin with. -/
def shortName : Signal → String
  | hup => "HUP"
  | int => "INT"
  | quit => "QUIT"
  | ill => "ILL"
  | trap => "TRAP"
  | abrt => "ABRT"
  | bus => "BUS"
  | fpe => "FPE"
  | kill => "KILL"
  | usr1 => "USR1"
  | segv => "SEGV"
  | usr2 => "USR2"
  | pipe => "PIPE"
  | alrm => "ALRM"
  | term => "TERM"
  | stkflt => "STKFLT"
  | chld => "CHLD"
  | cont => "CONT"
  | stop => "STOP"
  | tstp => "TSTP"
  | ttin => "TTIN"
  | ttou => "TTOU"
  | urg => "URG"
  | xcpu => "XCPU"
  | xfsz => "XFSZ"
  | vtalrm => "VTALRM"
  | prof => "PROF"
  | winch => "WINCH"
  | io => "IO"
  | pwr => "PWR"
  | sys => "SYS"

/-- What is said of a process that a signal ended. -/
def description : Signal → String
  | hup => "Hangup"
  | int => "Interrupt"
  | quit => "Quit"
  | ill => "Illegal instruction"
  | trap => "Trace/breakpoint trap"
  | abrt => "Aborted"
  | bus => "Bus error"
  | fpe => "Floating point exception"
  | kill => "Killed"
  | usr1 => "User defined signal 1"
  | segv => "Segmentation fault"
  | usr2 => "User defined signal 2"
  | pipe => "Broken pipe"
  | alrm => "Alarm clock"
  | term => "Terminated"
  | stkflt => "Stack fault"
  | chld => "Child exited"
  | cont => "Continued"
  | stop => "Stopped (signal)"
  | tstp => "Stopped"
  | ttin => "Stopped (tty input)"
  | ttou => "Stopped (tty output)"
  | urg => "Urgent I/O condition"
  | xcpu => "CPU time limit exceeded"
  | xfsz => "File size limit exceeded"
  | vtalrm => "Virtual timer expired"
  | prof => "Profiling timer expired"
  | winch => "Window changed"
  | io => "I/O possible"
  | pwr => "Power failure"
  | sys => "Bad system call"

/-- The name of a signal. -/
def name (s : Signal) : String :=
  "SIG" ++ s.shortName

/-- The signal of a name. -/
def ofName? (name : String) : Option Signal :=
  all.find? (·.name = name)

/-- The signal of a number. -/
def ofNumber? : Nat → Option Signal
  | 0 => none
  | n + 1 => all[n]?

/-- The number of a signal. -/
def number (s : Signal) : Nat :=
  all.idxOf s + 1

/-- What a signal does to a process that has not chosen otherwise. -/
inductive Effect where
  /-- The process ends. -/
  | terminate
  /-- Nothing happens. -/
  | ignore
  /-- The process stops until it is continued. -/
  | stop
  /-- A stopped process goes on. -/
  | resume
deriving DecidableEq, Repr

/-- The effect of a signal on a process that has not chosen otherwise. -/
def effect : Signal → Effect
  | chld | urg | winch => .ignore
  | stop | tstp | ttin | ttou => .stop
  | cont => .resume
  | _ => .terminate

end Signal

end CommandShell
