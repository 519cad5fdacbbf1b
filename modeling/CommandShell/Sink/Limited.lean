import CommandShell.Sink

/-!
# Limited streams

A stream that accepts only so many bytes in all and in each call, that may interrupt every other
call, and of which one flush may fail. Without any limit it accepts everything.
-/

namespace CommandShell

/-- A stream with limits. -/
structure LimitedSink where
  /-- How many bytes are still accepted, if there is a limit. -/
  room : Option Nat
  /-- How a call without room fails; without it such a call accepts nothing. -/
  full : Option IoError
  /-- How many bytes a call accepts, if there is a limit. -/
  chunk : Option Nat
  /-- Whether the calls with odd numbers are interrupted. -/
  interrupting : Bool
  /-- The number of calls so far. -/
  calls : Nat
  /-- The number of flushes so far. -/
  flushes : Nat
  /-- The number of the flush that fails, and how. -/
  failingFlush : Option (Nat × IoError)
deriving DecidableEq, Repr

namespace LimitedSink

/-- A stream that accepts everything. -/
def unlimited : LimitedSink :=
  ⟨none, none, none, false, 0, 0, none⟩

/-- The part of some bytes that a call accepts. -/
def share (s : LimitedSink) (bytes : Bytes) : Bytes :=
  let allowed := match s.chunk with
    | none => bytes
    | some k => bytes.take k
  match s.room with
  | none => allowed
  | some n => allowed.take n

/-- A call: interrupted if it is its turn, else as many bytes as there is room for. -/
def write (s : LimitedSink) (bytes : Bytes) : WriteAnswer × LimitedSink :=
  let called := { s with calls := s.calls + 1 }
  if s.interrupting ∧ s.calls % 2 = 0 then (.interrupted, called)
  else if s.room = some 0 ∧ bytes ≠ [] then
    match s.full with
    | some e => (.failed e, called)
    | none => (.accepted 0, called)
  else
    let count := (s.share bytes).length
    (.accepted count, { called with room := s.room.map (· - count) })

/-- A flush: it fails if it is its turn. -/
def flush (s : LimitedSink) : Option IoError × LimitedSink :=
  let failure := match s.failingFlush with
    | some (n, e) => if n = s.flushes + 1 then some e else none
    | none => none
  (failure, { s with flushes := s.flushes + 1 })

/-- Whether the next call is interrupted. -/
def patience (s : LimitedSink) : Nat :=
  if s.interrupting ∧ s.calls % 2 = 0 then 1 else 0

theorem patience_lt {s s' : LimitedSink} {bytes : Bytes}
    (h : s.write bytes = (.interrupted, s')) : s'.patience < s.patience := by
  unfold write at h
  by_cases hi : s.interrupting ∧ s.calls % 2 = 0
  · rw [if_pos hi] at h
    cases h
    simp only [patience, hi, and_self, if_true, true_and]
    rw [if_neg (by omega)]
    exact Nat.zero_lt_one
  · rw [if_neg hi] at h
    split at h
    · split at h <;> cases h
    · cases h

instance : Sink LimitedSink where
  write := write
  flush := flush
  patience := patience
  patience_lt := patience_lt

end LimitedSink

end CommandShell
