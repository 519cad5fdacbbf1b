import CommandShell.Errno

/-!
# Failures of input and output

Why a stream or a file could not be read or written, and how that is worded.
-/

namespace CommandShell

/-- A failure of input or output that does not come with an error number of the system. -/
inductive IoFault where
  /-- The operation would have to wait. -/
  | wouldBlock
  /-- The file ended too early. -/
  | unexpectedEnd
  /-- Nobody reads the other end. -/
  | brokenPipe
  /-- The data have the wrong form. -/
  | invalidData
  /-- The operation took too long. -/
  | timedOut
deriving DecidableEq, Repr

/-- The wording of a failure. -/
def IoFault.message : IoFault → String
  | .wouldBlock => "operation would block"
  | .unexpectedEnd => "unexpected end of file"
  | .brokenPipe => "broken pipe"
  | .invalidData => "invalid data"
  | .timedOut => "timed out"

/-- Why a stream or a file could not be read or written. -/
inductive IoError where
  /-- A system call failed. -/
  | system (e : Errno)
  /-- A failure without an error number. -/
  | fault (f : IoFault)
  /-- A failure in the words of whoever reports it. -/
  | other (text : String)
  /-- A stream accepted nothing of what was left to be written. -/
  | nothingAccepted
  /-- A path contains the byte that ends every path. -/
  | nulInPath
deriving DecidableEq, Repr

/-- The wording of a failure of input or output. -/
def IoError.message : IoError → String
  | .system e => e.libraryText ++ " (os error " ++ toString e.number ++ ")"
  | .fault f => f.message
  | .other text => text
  | .nothingAccepted => "failed to write whole buffer"
  | .nulInPath => "file name contained an unexpected NUL byte"

/-- Whether a failure only says that the call was interrupted, so that it is made again. -/
def IoError.isInterruption (e : IoError) : Bool :=
  e = .system .interrupted

end CommandShell
