import CommandShell.Bytes
import CommandShell.IoError

/-!
# Output streams

An output stream answers each write call: it accepts a number of bytes, is interrupted, or fails.
`Sink.writeAll` writes a whole byte string with as many calls as that takes: it goes on after a call
that accepted a part, repeats one that was interrupted, and gives up at a failure or when nothing is
accepted. So what a stream has accepted is always a prefix of what was to be written.
-/

namespace CommandShell

/-- The answer to a write call. -/
inductive WriteAnswer where
  /-- The first bytes were accepted, at most that many. -/
  | accepted (count : Nat)
  /-- The call was interrupted before anything was accepted. -/
  | interrupted
  /-- The call failed. -/
  | failed (e : IoError)
deriving DecidableEq, Repr

/-- How many bytes were accepted. -/
def WriteAnswer.count : WriteAnswer → Nat
  | accepted count => count
  | interrupted => 0
  | failed _ => 0

/-- The states of an output stream. A stream may interrupt any number of calls, but not for ever:
its patience says how often it still interrupts before it accepts something or fails. -/
class Sink (σ : Type) where
  /-- Writes bytes. -/
  write : σ → Bytes → WriteAnswer × σ
  /-- Passes on what was held back. -/
  flush : σ → Option IoError × σ
  /-- How often calls are still interrupted in a row, at most. -/
  patience : σ → Nat
  /-- Each interruption takes patience. -/
  patience_lt : ∀ {s s' : σ} {bytes : Bytes}, write s bytes = (.interrupted, s') →
    patience s' < patience s

/-- The result of writing a byte string. -/
structure Written (σ : Type) where
  /-- How many bytes the stream accepted. -/
  count : Nat
  /-- Why the rest was not accepted, if there is a rest. -/
  failure : Option IoError
  /-- The stream afterwards. -/
  sink : σ

namespace Sink

variable {σ : Type} [Sink σ]

/-- Writes a byte string as a whole. -/
def writeAll (s : σ) (bytes : Bytes) : Written σ :=
  match bytes with
  | [] => ⟨0, none, s⟩
  | b :: rest =>
    match _h : write s (b :: rest) with
    | (.failed e, s') => ⟨0, some e, s'⟩
    | (.interrupted, s') => writeAll s' (b :: rest)
    | (.accepted 0, s') => ⟨0, some .nothingAccepted, s'⟩
    | (.accepted (n + 1), s') =>
      let after := writeAll s' (rest.drop n)
      ⟨((b :: rest).take (n + 1)).length + after.count, after.failure, after.sink⟩
termination_by (bytes.length, patience s)
decreasing_by
  · exact Prod.Lex.right _ (patience_lt _h)
  · exact Prod.Lex.left _ _ (by simp only [List.length_drop, List.length_cons]; omega)

end Sink

end CommandShell
