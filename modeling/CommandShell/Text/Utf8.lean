import CommandShell.Bytes

/-!
# Reading UTF-8

A byte string is cut into *pieces*: a character for each well-formed sequence, and a malformed
piece for each longest run of bytes that starts a well-formed sequence and is not continued to one
(a byte that starts none is a malformed piece of its own). Concatenating the bytes of the pieces
gives the byte string back.

Two readings are built on the pieces. `decode?` is strict: it has an answer only if no piece is
malformed. `lossy` always has one: it puts the replacement character U+FFFD in the place of each
malformed piece.
-/

namespace CommandShell.Text

/-- A maximal part of a byte string that is a character, or that is no part of any. -/
inductive Piece where
  /-- A well-formed sequence, which stands for one character. -/
  | scalar (c : Char)
  /-- A beginning of a well-formed sequence that is broken off, or a byte that begins none. -/
  | malformed (bytes : Bytes)
deriving DecidableEq, Repr

namespace Piece

/-- The character of a well-formed piece. -/
def scalar? : Piece → Option Char
  | scalar c => some c
  | malformed _ => none

/-- The character that stands for a piece in a text: its own, or the replacement character. -/
def replacement : Piece → Char
  | scalar c => c
  | malformed _ => '\uFFFD'

end Piece

/-- A well-formed sequence of which some bytes are still owed. -/
structure Sequence where
  /-- The bytes so far. -/
  held : Bytes
  /-- The least byte that continues the sequence. -/
  low : UInt8
  /-- The greatest byte that continues the sequence. -/
  high : UInt8
  /-- How many bytes the sequence has after the next one. -/
  owed : Nat
  /-- The bits of the code point so far. -/
  bits : Nat
deriving DecidableEq, Repr

/-- What the bytes since the last piece amount to. -/
inductive Progress where
  /-- They are a piece. -/
  | piece (p : Piece)
  /-- They begin a sequence. -/
  | sequence (s : Sequence)

/-- The first byte of a piece. Bytes that would begin an overlong form, a surrogate or a number
above U+10FFFF are excluded by the range of the byte after the first. -/
def Progress.ofLead (b : UInt8) : Progress :=
  if b < 0x80 then .piece (.scalar (Char.ofNat b.toNat))
  else if b < 0xC2 then .piece (.malformed [b])
  else if b < 0xE0 then .sequence ⟨[b], 0x80, 0xBF, 0, b.toNat % 32⟩
  else if b = 0xE0 then .sequence ⟨[b], 0xA0, 0xBF, 1, 0⟩
  else if b = 0xED then .sequence ⟨[b], 0x80, 0x9F, 1, 0xD⟩
  else if b < 0xF0 then .sequence ⟨[b], 0x80, 0xBF, 1, b.toNat % 16⟩
  else if b = 0xF0 then .sequence ⟨[b], 0x90, 0xBF, 2, 0⟩
  else if b < 0xF4 then .sequence ⟨[b], 0x80, 0xBF, 2, b.toNat % 8⟩
  else if b = 0xF4 then .sequence ⟨[b], 0x80, 0x8F, 2, 4⟩
  else .piece (.malformed [b])

/-- A sequence with one more byte, unless that byte does not continue it. -/
def Sequence.extend? (s : Sequence) (b : UInt8) : Option Progress :=
  if s.low ≤ b ∧ b ≤ s.high then
    match s.owed with
    | 0 => some (.piece (.scalar (Char.ofNat (s.bits * 64 + b.toNat % 64))))
    | n + 1 => some (.sequence ⟨s.held ++ [b], 0x80, 0xBF, n, s.bits * 64 + b.toNat % 64⟩)
  else none

/-- The pieces of the bytes read so far. -/
structure Decoding where
  /-- The complete pieces, newest first. -/
  done : List Piece
  /-- The sequence that the last bytes begin, if they begin one. -/
  pending : Option Sequence

namespace Decoding

/-- Before the first byte. -/
def empty : Decoding :=
  ⟨[], none⟩

/-- Adds what a byte has led to. -/
def advance (done : List Piece) : Progress → Decoding
  | .piece p => ⟨p :: done, none⟩
  | .sequence s => ⟨done, some s⟩

/-- One more byte: it continues the pending sequence, or that sequence is broken off and the byte
begins a piece of its own. -/
def step (d : Decoding) (b : UInt8) : Decoding :=
  match d.pending with
  | none => advance d.done (.ofLead b)
  | some s =>
    match s.extend? b with
    | some next => advance d.done next
    | none => advance (.malformed s.held :: d.done) (.ofLead b)

/-- All pieces in order; a sequence that the end breaks off is malformed. -/
def finish (d : Decoding) : List Piece :=
  match d.pending with
  | none => d.done.reverse
  | some s => (.malformed s.held :: d.done).reverse

end Decoding

/-- The pieces of a byte string, in order. -/
def pieces (bytes : Bytes) : List Piece :=
  (bytes.foldl Decoding.step .empty).finish

/-- The text that a byte string is the UTF-8 form of, if it is one. -/
def decode? (bytes : Bytes) : Option (List Char) :=
  (pieces bytes).mapM Piece.scalar?

/-- The text of a byte string with U+FFFD in the place of each malformed piece. -/
def lossy (bytes : Bytes) : List Char :=
  (pieces bytes).map Piece.replacement

/-- `lossy` as a string. -/
def display (bytes : Bytes) : String :=
  .ofList (lossy bytes)

end CommandShell.Text
