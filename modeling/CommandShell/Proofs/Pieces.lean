import CommandShell.ArgVector
import CommandShell.Line
import CommandShell.Text.Utf8
import Mathlib.Data.List.Basic

/-!
# The bytes of pieces

The pieces of a byte string give its bytes back (`Text.flatMap_bytes_pieces`): a malformed piece
consists of its bytes, and a character stands for its UTF-8 form.  So a text that was decoded is the
one that the bytes are the form of (`Text.utf8_of_decode?_eq_some`), and a character of ASCII is
shown only where its byte is.

A sequence that has begun is *sound* if every way of continuing it leads to the form of a character
(`Text.Sequence.Sound`).  Whether it is so is decided by the ranges of the byte after the first;
from there on each byte only takes one of the ways.
-/

namespace CommandShell

/-- The UTF-8 form of a text is that of its characters, one after the other. -/
lemma utf8_eq_flatMap (text : String) : utf8 text = text.toList.flatMap String.utf8EncodeChar := by
  rw [utf8, String.toUTF8, ← String.utf8Encode_toList, List.utf8Encode,
    List.toList_data_toByteArray]

namespace Text

/-! ### Forms of characters -/

/-- Whether a byte continues a sequence. -/
def IsContinuation (b : UInt8) : Prop :=
  0x80 ≤ b.toNat ∧ b.toNat ≤ 0xBF

/-- The code point of a valid number. -/
lemma val_ofNat {n : Nat} (h : n.isValidChar) : (Char.ofNat n).val.toNat = n := by
  rw [Char.ofNat, dif_pos h]
  rfl

/-- The form of a character of two bytes. -/
lemma utf8EncodeChar_two {a b : UInt8} (ha : 0xC2 ≤ a.toNat) (ha' : a.toNat < 0xE0)
    (hb : IsContinuation b) :
    String.utf8EncodeChar (.ofNat (a.toNat % 32 * 64 + b.toNat % 64)) = [a, b] := by
  obtain ⟨hb, hb'⟩ := hb
  have hval := val_ofNat (n := a.toNat % 32 * 64 + b.toNat % 64) (Or.inl (by omega))
  simp only [String.utf8EncodeChar, hval]
  rw [if_neg (by omega), if_pos (by omega)]
  simp only [List.cons.injEq, ← UInt8.toNat_inj, UInt8.toNat_ofNat', and_true]
  omega

/-- The form of a character of three bytes. -/
lemma utf8EncodeChar_three {a b c : UInt8} (ha : 0xE0 ≤ a.toNat) (ha' : a.toNat < 0xF0)
    (hb : IsContinuation b) (hc : IsContinuation c) (hlong : a.toNat = 0xE0 → 0xA0 ≤ b.toNat)
    (hscalar : a.toNat = 0xED → b.toNat ≤ 0x9F) :
    String.utf8EncodeChar (.ofNat ((a.toNat % 16 * 64 + b.toNat % 64) * 64 + c.toNat % 64)) =
      [a, b, c] := by
  obtain ⟨hb, hb'⟩ := hb
  obtain ⟨hc, hc'⟩ := hc
  have hvalid : ((a.toNat % 16 * 64 + b.toNat % 64) * 64 + c.toNat % 64).isValidChar := by
    rw [Nat.isValidChar]
    omega
  simp only [String.utf8EncodeChar, val_ofNat hvalid]
  rw [if_neg (by omega), if_neg (by omega), if_pos (by omega)]
  simp only [List.cons.injEq, ← UInt8.toNat_inj, UInt8.toNat_ofNat', and_true]
  omega

/-- The form of a character of four bytes. -/
lemma utf8EncodeChar_four {a b c d : UInt8} (ha : 0xF0 ≤ a.toNat) (ha' : a.toNat ≤ 0xF4)
    (hb : IsContinuation b) (hc : IsContinuation c) (hd : IsContinuation d)
    (hlong : a.toNat = 0xF0 → 0x90 ≤ b.toNat) (hscalar : a.toNat = 0xF4 → b.toNat ≤ 0x8F) :
    String.utf8EncodeChar (.ofNat
      (((a.toNat % 8 * 64 + b.toNat % 64) * 64 + c.toNat % 64) * 64 + d.toNat % 64)) =
      [a, b, c, d] := by
  obtain ⟨hb, hb'⟩ := hb
  obtain ⟨hc, hc'⟩ := hc
  obtain ⟨hd, hd'⟩ := hd
  have hvalid : (((a.toNat % 8 * 64 + b.toNat % 64) * 64 + c.toNat % 64) * 64
      + d.toNat % 64).isValidChar := by
    rw [Nat.isValidChar]
    omega
  simp only [String.utf8EncodeChar, val_ofNat hvalid]
  rw [if_neg (by omega), if_neg (by omega), if_neg (by omega)]
  simp only [List.cons.injEq, ← UInt8.toNat_inj, UInt8.toNat_ofNat', and_true]
  omega

/-- The form of a character of one byte. -/
lemma utf8EncodeChar_one {n : Nat} (h : n < 0x80) :
    String.utf8EncodeChar (.ofNat n) = [UInt8.ofNat n] := by
  have hval : (Char.ofNat n).val.toNat = n := val_ofNat (Or.inl (by omega))
  simp only [String.utf8EncodeChar, hval]
  rw [if_pos (by omega)]

/-! ### Sequences -/

/-- The bytes of a piece. -/
def Piece.bytes : Piece → Bytes
  | scalar c => String.utf8EncodeChar c
  | malformed bytes => bytes

/-- A sequence of which every continuation is the form of a character. -/
def Sequence.Sound (s : Sequence) : Prop :=
  ∀ b rest, s.low ≤ b → b ≤ s.high → rest.length = s.owed → (∀ c ∈ rest, IsContinuation c) →
    String.utf8EncodeChar (.ofNat ((b :: rest).foldl (fun n c => n * 64 + c.toNat % 64) s.bits)) =
      s.held ++ b :: rest

/-- What has come of some bytes since the last piece. -/
def Progress.Represents (bytes : Bytes) : Progress → Prop
  | .piece p => p.bytes = bytes
  | .sequence s => s.held = bytes ∧ s.Sound

/-- A sequence of two bytes has begun. -/
lemma sound_two {a : UInt8} (ha : 0xC2 ≤ a.toNat) (ha' : a.toNat < 0xE0) :
    Sequence.Sound ⟨[a], 0x80, 0xBF, 0, a.toNat % 32⟩ := by
  intro b rest hlow hhigh hlength hrest
  obtain rfl := List.length_eq_zero_iff.mp hlength
  exact utf8EncodeChar_two ha ha' ⟨UInt8.le_iff_toNat_le.mp hlow, UInt8.le_iff_toNat_le.mp hhigh⟩

/-- A sequence of three bytes has begun; the range of the second byte depends on the first. -/
lemma sound_three {a low high : UInt8} {bits : Nat} (ha : 0xE0 ≤ a.toNat) (ha' : a.toNat < 0xF0)
    (hlow : 0x80 ≤ low.toNat) (hhigh : high.toNat ≤ 0xBF)
    (hlong : a.toNat = 0xE0 → 0xA0 ≤ low.toNat)
    (hscalar : a.toNat = 0xED → high.toNat ≤ 0x9F) (hbits : bits = a.toNat % 16) :
    Sequence.Sound ⟨[a], low, high, 1, bits⟩ := by
  intro b rest hb hb' hlength hrest
  obtain ⟨c, rfl⟩ := List.length_eq_one_iff.mp hlength
  have hb : low.toNat ≤ b.toNat := UInt8.le_iff_toNat_le.mp hb
  have hb' : b.toNat ≤ high.toNat := UInt8.le_iff_toNat_le.mp hb'
  subst hbits
  exact utf8EncodeChar_three ha ha' ⟨Nat.le_trans hlow hb, Nat.le_trans hb' hhigh⟩
    (hrest c (by simp))
    (fun h => Nat.le_trans (hlong h) hb)
    (fun h => Nat.le_trans hb' (hscalar h))

/-- A sequence of four bytes has begun; the range of the second byte depends on the first. -/
lemma sound_four {a low high : UInt8} {bits : Nat} (ha : 0xF0 ≤ a.toNat) (ha' : a.toNat ≤ 0xF4)
    (hlow : 0x80 ≤ low.toNat) (hhigh : high.toNat ≤ 0xBF)
    (hlong : a.toNat = 0xF0 → 0x90 ≤ low.toNat)
    (hscalar : a.toNat = 0xF4 → high.toNat ≤ 0x8F) (hbits : bits = a.toNat % 8) :
    Sequence.Sound ⟨[a], low, high, 2, bits⟩ := by
  intro b rest hb hb' hlength hrest
  obtain ⟨c, d, rfl⟩ := List.length_eq_two.mp hlength
  have hb : low.toNat ≤ b.toNat := UInt8.le_iff_toNat_le.mp hb
  have hb' : b.toNat ≤ high.toNat := UInt8.le_iff_toNat_le.mp hb'
  subst hbits
  exact utf8EncodeChar_four ha ha' ⟨Nat.le_trans hlow hb, Nat.le_trans hb' hhigh⟩
    (hrest c (by simp))
    (hrest d (by simp)) (fun h => Nat.le_trans (hlong h) hb)
    (fun h => Nat.le_trans hb' (hscalar h))

/-- A first byte is a piece or begins a sound sequence. -/
lemma represents_ofLead (a : UInt8) : (Progress.ofLead a).Represents [a] := by
  simp only [Progress.ofLead, UInt8.lt_iff_toNat_lt, ← UInt8.toNat_inj, UInt8.reduceToNat]
  split
  · next h =>
    have hform := utf8EncodeChar_one h
    rwa [UInt8.ofNat_toNat] at hform
  split
  · rfl
  split
  · exact ⟨rfl, sound_two (by omega) (by omega)⟩
  split
  · exact ⟨rfl, sound_three (by omega) (by omega) (by decide) (by decide) (fun _ => by decide)
      (fun _ => by omega) (by omega)⟩
  split
  · exact ⟨rfl, sound_three (by omega) (by omega) (by decide) (by decide) (fun _ => by omega)
      (fun _ => by decide) (by omega)⟩
  split
  · exact ⟨rfl, sound_three (by omega) (by omega) (by decide) (by decide) (fun _ => by omega)
      (fun _ => by omega) rfl⟩
  split
  · exact ⟨rfl, sound_four (by omega) (by omega) (by decide) (by decide) (fun _ => by decide)
      (fun _ => by omega) (by omega)⟩
  split
  · exact ⟨rfl, sound_four (by omega) (by omega) (by decide) (by decide) (fun _ => by omega)
      (fun _ => by omega) rfl⟩
  split
  · exact ⟨rfl, sound_four (by omega) (by omega) (by decide) (by decide) (fun _ => by omega)
      (fun _ => by decide) (by omega)⟩
  · rfl

/-- One more byte of a sound sequence makes it a character, or one that is sound again. -/
lemma Sequence.Sound.extend? {s : Sequence} {b : UInt8} {p : Progress} (h : s.Sound)
    (hp : s.extend? b = some p) : p.Represents (s.held ++ [b]) := by
  rw [Sequence.extend?] at hp
  split at hp
  · next hrange =>
    split at hp
    · next howed =>
      cases hp
      exact h b [] hrange.1 hrange.2 howed.symm fun _ hc => absurd hc List.not_mem_nil
    · next n howed =>
      cases hp
      refine ⟨rfl, fun c rest hlow hhigh hlength hrest => ?_⟩
      have hc : IsContinuation c := ⟨UInt8.le_iff_toNat_le.mp hlow, UInt8.le_iff_toNat_le.mp hhigh⟩
      have hform := h b (c :: rest) hrange.1 hrange.2 (by rw [howed, List.length_cons, hlength])
        (List.forall_mem_cons.mpr ⟨hc, hrest⟩)
      rw [List.foldl_cons] at hform
      rwa [List.append_assoc, List.singleton_append]
  · cases hp

/-! ### Byte strings -/

/-- The pieces so far, and the sequence that is pending, give the bytes read so far. -/
structure Decoding.Represents (bytes : Bytes) (d : Decoding) : Prop where
  bytes_eq : bytes = d.done.reverse.flatMap Piece.bytes ++ d.pending.elim [] Sequence.held
  sound : ∀ s, d.pending = some s → s.Sound

namespace Decoding.Represents

/-- What a byte leads to is added to the pieces. -/
lemma advance {done : List Piece} {bytes : Bytes} {p : Progress} (h : p.Represents bytes) :
    Represents (done.reverse.flatMap Piece.bytes ++ bytes) (Decoding.advance done p) := by
  cases p with
  | piece p =>
    refine ⟨?_, fun s hs => by cases hs⟩
    simp only [Decoding.advance, List.reverse_cons, List.flatMap_append, List.flatMap_singleton,
      Option.elim_none, List.append_nil]
    rw [show p.bytes = bytes from h]
  | sequence s =>
    obtain ⟨rfl, hs⟩ := h
    exact ⟨rfl, fun s' hs' => Option.some.inj hs' ▸ hs⟩

/-- One more byte is one more byte of the pieces. -/
lemma step {bytes : Bytes} {d : Decoding} (h : d.Represents bytes) (b : UInt8) :
    (d.step b).Represents (bytes ++ [b]) := by
  obtain ⟨done, pending⟩ := d
  obtain ⟨rfl, hsound⟩ := h
  cases pending with
  | none =>
    simp only [Option.elim_none, List.append_nil]
    exact advance (represents_ofLead b)
  | some s =>
    simp only [Decoding.step, Option.elim_some]
    split
    · next next heq =>
      rw [List.append_assoc]
      exact advance ((hsound s rfl).extend? heq)
    · have hnew : Represents ((.malformed s.held :: done).reverse.flatMap Piece.bytes ++ [b]) _ :=
        advance (represents_ofLead b)
      simpa only [List.reverse_cons, List.flatMap_append, List.flatMap_singleton, Piece.bytes]
        using hnew

end Decoding.Represents

/-- The pieces of a byte string give it back. -/
theorem flatMap_bytes_pieces (bytes : Bytes) : (pieces bytes).flatMap Piece.bytes = bytes := by
  have hfold (read : Bytes) (d : Decoding) (h : d.Represents read) (rest : Bytes) :
      (rest.foldl Decoding.step d).Represents (read ++ rest) := by
    induction rest generalizing read d with
    | nil => simpa using h
    | cons b rest ih =>
      have hrest := ih _ _ (h.step b)
      rwa [List.append_assoc, List.singleton_append] at hrest
  have hempty : Decoding.empty.Represents [] := ⟨rfl, fun s hs => by cases hs⟩
  obtain ⟨heq, -⟩ := hfold [] .empty hempty bytes
  rw [List.nil_append] at heq
  rw [pieces, Decoding.finish]
  split
  · next hnone =>
    rw [hnone, Option.elim_none, List.append_nil] at heq
    exact heq.symm
  · next s hsome =>
    rw [hsome, Option.elim_some] at heq
    rw [List.reverse_cons, List.flatMap_append, List.flatMap_singleton]
    exact heq.symm

/-- A text that was decoded has the bytes as its UTF-8 form. -/
lemma utf8_of_decode?_eq_some {bytes : Bytes} {text : List Char} (h : decode? bytes = some text) :
    utf8 (.ofList text) = bytes := by
  have hbytes (p : Piece) (c : Char) (hc : p.scalar? = some c) :
      p.bytes = String.utf8EncodeChar c := by
    cases p with
    | scalar c' => cases hc; rfl
    | malformed b => cases hc
  have hall (ps : List Piece) (cs : List Char) (hcs : ps.mapM Piece.scalar? = some cs) :
      cs.flatMap String.utf8EncodeChar = ps.flatMap Piece.bytes := by
    induction ps generalizing cs with
    | nil => cases hcs; rfl
    | cons p ps ih =>
      simp only [List.mapM_cons, Option.pure_def, Option.bind_eq_bind,
        Option.bind_eq_some_iff] at hcs
      obtain ⟨c, hc, rest, hrest, hcs⟩ := hcs
      cases hcs
      rw [List.flatMap_cons, List.flatMap_cons, ih rest hrest, hbytes p c hc]
  rw [utf8_eq_flatMap, String.toList_ofList, hall _ _ h, flatMap_bytes_pieces]

/-! ### Newlines -/

/-- The form of a newline is the byte of that name, and that byte is in no other form. -/
lemma newline_mem_utf8EncodeChar_iff (c : Char) :
    LineRead.newline ∈ String.utf8EncodeChar c ↔ c = '\n' := by
  constructor
  · intro h
    -- All bytes of a longer form are above those of ASCII.
    have hval : c.val.toNat = 10 := by
      revert h
      fun_cases String.utf8EncodeChar c <;>
        simp only [List.mem_cons, List.not_mem_nil, or_false, LineRead.newline, ← UInt8.toNat_inj,
          UInt8.toNat_ofNat', UInt8.reduceToNat] <;> omega
    exact Char.ext (UInt32.toNat_inj.mp hval)
  · rintro rfl
    decide

/-- The newline byte is in the form of a text if and only if the text has a newline. -/
lemma newline_mem_utf8_iff (text : String) :
    LineRead.newline ∈ utf8 text ↔ '\n' ∈ text.toList := by
  simp [utf8_eq_flatMap, newline_mem_utf8EncodeChar_iff]

/-- Bytes without a newline are shown without one. -/
lemma newline_notMem_display {bytes : Bytes} (h : LineRead.newline ∉ bytes) :
    '\n' ∉ (display bytes).toList := by
  rw [display, String.toList_ofList, lossy, List.mem_map]
  rintro ⟨p, hp, hc⟩
  cases p with
  | malformed b => cases hc
  | scalar c =>
    refine h ?_
    rw [← flatMap_bytes_pieces bytes, List.mem_flatMap]
    exact ⟨.scalar c, hp, (newline_mem_utf8EncodeChar_iff c).mpr hc⟩

end Text

end CommandShell
