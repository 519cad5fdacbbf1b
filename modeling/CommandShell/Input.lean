import CommandShell.Bytes
import CommandShell.IoError

/-!
# Input

The input of the interpreter is what the reads of single bytes answer: bytes that arrive in chunks
of any size, ends of the stream (after which more may follow), failures, and interruptions. A read
that was interrupted is made again, and so is one whose failure says no more than that. When
nothing is left every read finds the end.
-/

namespace CommandShell

/-- Something that happens on the input. -/
inductive InputEvent where
  /-- Bytes arrive. -/
  | chunk (bytes : Bytes)
  /-- A read finds the end. -/
  | ended
  /-- A read is interrupted. -/
  | interrupted
  /-- A read fails. -/
  | failed (e : IoError)
deriving DecidableEq, Repr

/-- The answer to a read of one byte. -/
inductive Arrival where
  /-- The next byte. -/
  | byte (b : UInt8)
  /-- The end. -/
  | ended
  /-- A failure. -/
  | failed (e : IoError)
deriving DecidableEq, Repr

/-- The answer to the next read, and what is left after it. Interruptions and chunks without bytes
are passed over. -/
def InputEvent.nextArrival : List InputEvent → Arrival × List InputEvent
  | [] => (.ended, [])
  | .chunk [] :: rest => nextArrival rest
  | .chunk (b :: bytes) :: rest => (.byte b, .chunk bytes :: rest)
  | .ended :: rest => (.ended, rest)
  | .interrupted :: rest => nextArrival rest
  | .failed e :: rest => if e.isInterruption then nextArrival rest else (.failed e, rest)

/-- Each event counts once, and each byte once more. -/
def InputEvent.weight : InputEvent → Nat
  | .chunk bytes => bytes.length + 1
  | _ => 1

/-- A read that finds a byte takes it away. -/
theorem InputEvent.weight_nextArrival_lt {events rest : List InputEvent} {b : UInt8}
    (h : nextArrival events = (.byte b, rest)) :
    sumOf (rest.map weight) < sumOf (events.map weight) := by
  fun_induction nextArrival events with
  | case1 => cases h
  | case2 events ih =>
    have := ih h
    simp only [List.map_cons, sumOf_cons]
    omega
  | case3 c bytes events =>
    cases h
    simp [weight]
  | case4 => cases h
  | case5 events ih =>
    have := ih h
    simp only [List.map_cons, sumOf_cons]
    omega
  | case6 e events he ih =>
    have := ih h
    simp only [List.map_cons, sumOf_cons]
    omega
  | case7 => cases h

/-- The input with a count of the bytes that were taken from it. -/
structure Input where
  /-- What is still to happen. -/
  pending : List InputEvent
  /-- How many bytes were taken. -/
  consumed : Nat
deriving DecidableEq, Repr

namespace Input

/-- Input of which nothing was taken yet. -/
def ofEvents (events : List InputEvent) : Input :=
  ⟨events, 0⟩

/-- Input that consists of bytes. -/
def ofBytes (bytes : Bytes) : Input :=
  ofEvents [.chunk bytes]

/-- Reads one byte. -/
def next (i : Input) : Arrival × Input :=
  match InputEvent.nextArrival i.pending with
  | (.byte b, rest) => (.byte b, ⟨rest, i.consumed + 1⟩)
  | (.ended, rest) => (.ended, ⟨rest, i.consumed⟩)
  | (.failed e, rest) => (.failed e, ⟨rest, i.consumed⟩)

/-- How much is still to happen. -/
def remaining (i : Input) : Nat :=
  sumOf (i.pending.map InputEvent.weight)

/-- A read that finds a byte leaves less to happen. -/
theorem remaining_next_lt {i rest : Input} {b : UInt8} (h : i.next = (.byte b, rest)) :
    rest.remaining < i.remaining := by
  unfold next at h
  split at h
  · next c left heq =>
    cases h
    exact InputEvent.weight_nextArrival_lt heq
  · cases h
  · cases h

end Input

end CommandShell
