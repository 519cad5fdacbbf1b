import CommandShell.Sink

/-!
# A line-buffered stream to a full device

Bytes after the last newline are held back in a buffer; complete lines are passed on at once. The
device behind the buffer has no room for anything, so passing on fails unless there is nothing to
pass on, and what was held back stays held back.
-/

namespace CommandShell

/-- The stream, given by what it holds back. -/
structure FullDeviceSink where
  /-- The bytes in the buffer. -/
  held : Bytes
deriving DecidableEq, Repr

namespace FullDeviceSink

/-- The room of the buffer. -/
def capacity : Nat := 1024

/-- The failure of the device. -/
def deviceFull : IoError := .system .noSpace

/-- Passes on what is held back. -/
def flush (s : FullDeviceSink) : Option IoError × FullDeviceSink :=
  (if s.held = [] then none else some deviceFull, s)

/-- Puts bytes into the buffer. What has no room beside the bytes held back needs them to be passed
on first, and what fills the whole buffer is passed on itself. -/
def hold (s : FullDeviceSink) (bytes : Bytes) : Option IoError × FullDeviceSink :=
  let spare := capacity - s.held.length
  if bytes.length < spare then (none, ⟨s.held ++ bytes⟩)
  else if spare < bytes.length ∧ s.held ≠ [] then (some deviceFull, s)
  else if capacity ≤ bytes.length then (some deviceFull, s)
  else (none, ⟨s.held ++ bytes⟩)

/-- The bytes up to the last newline. -/
def completeLines (bytes : Bytes) : Bytes :=
  (bytes.reverse.dropWhile (· ≠ 0x0A)).reverse

/-- A call: bytes without a newline are held back, after a complete line that is held back was
passed on; complete lines are passed on after what is held back. -/
def write (s : FullDeviceSink) (bytes : Bytes) : WriteAnswer × FullDeviceSink :=
  let lines := completeLines bytes
  if lines = [] then
    if s.held.getLast? = some 0x0A then (.failed deviceFull, s)
    else
      match s.hold bytes with
      | (none, s') => (.accepted bytes.length, s')
      | (some e, s') => (.failed e, s')
  else if s.held = [] then (.failed deviceFull, s)
  else
    match s.hold lines with
    | (none, s') => (.failed deviceFull, s')
    | (some e, s') => (.failed e, s')

instance : Sink FullDeviceSink where
  write := write
  flush := flush
  patience _ := 0
  patience_lt := by
    intro s s' bytes h
    simp only [write] at h
    repeat' split at h
    all_goals cases h

end FullDeviceSink

end CommandShell
