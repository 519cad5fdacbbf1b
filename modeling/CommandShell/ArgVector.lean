import CommandShell.Bytes
import CommandShell.GrowingBuffer
import CommandShell.Record

/-!
# Argument vectors

A line is cut at six delimiters: blank, tab, carriage return, newline, bell and the single quote,
which is a delimiter like the others and groups nothing. The arguments are the longest runs of other
bytes, unchanged and in order. The first is the name of the command.
-/

namespace CommandShell

/-- The arguments of a command, its name included. -/
abbrev ArgVector := List Bytes

/-- The bytes that separate arguments. -/
def delimiters : Bytes :=
  [0x20, 0x09, 0x0D, 0x0A, 0x07, 0x27]

/-- Whether a byte separates arguments. -/
def isDelimiter (b : UInt8) : Bool :=
  delimiters.contains b

namespace ArgVector

/-- The arguments of a line: what lies between delimiters, where anything does. -/
def ofLine (line : Bytes) : ArgVector :=
  (line.splitOnP isDelimiter).filter fun piece => !piece.isEmpty

/-- The number of arguments that there is room for at first, and that each enlargement adds. -/
def slotStep : Nat := 64

/-- The record of an enlargement. -/
def growthRecord (slots : Nat) : Record :=
  ⟨.trace, "argument vector grown to " ++ toString slots ++ " slots"⟩

/-- The records of storing the arguments one after the other. -/
def growthRecords (args : ArgVector) : List Record :=
  (GrowingBuffer.ofList slotStep args).growthList.map growthRecord

/-- The name of the command, if there are arguments. -/
def command? (args : ArgVector) : Option Bytes :=
  args.head?

end ArgVector

end CommandShell
