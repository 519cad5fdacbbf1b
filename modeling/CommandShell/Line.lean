import CommandShell.GrowingBuffer
import CommandShell.Input
import CommandShell.Record

/-!
# Lines

A line is what stands before a newline byte, whatever its bytes and its length. Bytes that no
newline follows before the end of the stream or a failure are no line and are dropped. Reading a
line takes nothing after its newline.
-/

namespace CommandShell

/-- The result of reading a line. -/
inductive LineResult where
  /-- A line, without its newline. -/
  | line (bytes : Bytes)
  /-- The end came first. -/
  | ended
  /-- A failure came first. -/
  | failed (e : IoError)
deriving DecidableEq, Repr

/-- Everything that reading a line leads to. -/
structure LineRead where
  /-- What was found. -/
  result : LineResult
  /-- The records made on the way. -/
  records : List Record
  /-- The input after it. -/
  input : Input
deriving DecidableEq, Repr

namespace LineRead

/-- The number of bytes that there is room for at first, and that each enlargement adds. -/
def byteStep : Nat := 1024

/-- The byte that ends a line. -/
def newline : UInt8 := 0x0A

/-- The record of an enlargement of the line buffer. -/
def growthRecord (bytes : Nat) : Record :=
  ⟨.trace, "line buffer grown to " ++ toString bytes ++ " bytes"⟩

/-- Reading has come to a result. -/
def conclude (result : LineResult) (buffer : GrowingBuffer UInt8) (rest : Input) : LineRead :=
  ⟨result, buffer.growthList.map growthRecord, rest⟩

/-- Reads on, byte by byte, with the bytes since the last newline in a buffer. -/
def readOn (buffer : GrowingBuffer UInt8) (input : Input) : LineRead :=
  match _h : input.next with
  | (.byte b, rest) =>
    if b = newline then conclude (.line buffer.toList) buffer rest
    else readOn (buffer.push b) rest
  | (.ended, rest) => conclude .ended buffer rest
  | (.failed e, rest) => conclude (.failed e) buffer rest
termination_by input.remaining
decreasing_by exact Input.remaining_next_lt _h

end LineRead

/-- Reads the next line. -/
def Input.readLine (input : Input) : LineRead :=
  LineRead.readOn (.empty LineRead.byteStep) input

namespace LineRead

/-- Reading a line that is there leaves less to happen. -/
theorem remaining_readOn_lt {buffer : GrowingBuffer UInt8} {input : Input} {bytes : Bytes}
    (h : (readOn buffer input).result = .line bytes) :
    (readOn buffer input).input.remaining < input.remaining := by
  fun_induction readOn buffer input with
  | case1 buffer input rest heq => exact Input.remaining_next_lt heq
  | case2 buffer input b rest heq hb ih =>
    exact Nat.lt_trans (ih h) (Input.remaining_next_lt heq)
  | case3 buffer input rest heq => simp [conclude] at h
  | case4 buffer input e rest heq => simp [conclude] at h

/-- Reading a line leaves less to happen, if there is a line. -/
theorem remaining_readLine_lt {input : Input} {bytes : Bytes}
    (h : input.readLine.result = .line bytes) :
    input.readLine.input.remaining < input.remaining :=
  remaining_readOn_lt h

end LineRead

end CommandShell
