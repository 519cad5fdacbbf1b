import CommandShell.Builtin.Paths
import CommandShell.CommandLine
import CommandShell.Proofs.Pieces
import Mathlib

/-!
# Reading texts back

The form of a text is read back as that text (`Text.decode?_utf8`).  Each character has one form,
and the ranges of the second byte leave out overlong forms, surrogates and numbers above U+10FFFF
only, so that no form of a character is cut into other pieces (`Text.foldl_step_utf8EncodeChar`).

So arguments are texts if and only if they are the forms of some texts, and then they are read as
these (`ArgVector.texts_map_utf8`, `ProgramRun.texts_eq_ok_iff`).
-/

namespace CommandShell

namespace Text

open Decoding (step)

/-! ### First bytes -/

/-- A byte of ASCII is a character. -/
lemma ofLead_one {a : UInt8} (ha : a.toNat < 0x80) :
    Progress.ofLead a = .piece (.scalar (.ofNat a.toNat)) := by
  rw [Progress.ofLead, if_pos (UInt8.lt_iff_toNat_lt.mpr ha)]

/-- The first byte of two allows every second one. -/
lemma ofLead_two {a : UInt8} (ha : 0xC2 ≤ a.toNat) (ha' : a.toNat < 0xE0) :
    Progress.ofLead a = .sequence ⟨[a], 0x80, 0xBF, 0, a.toNat % 32⟩ := by
  simp only [Progress.ofLead, UInt8.lt_iff_toNat_lt, UInt8.reduceToNat]
  rw [if_neg (by omega), if_neg (by omega), if_pos ha']

/-- The first byte of three allows every second one that makes no overlong form and no surrogate. -/
lemma ofLead_three {a b : UInt8} (ha : 0xE0 ≤ a.toNat) (ha' : a.toNat < 0xF0)
    (hb : IsContinuation b) (hlong : a.toNat = 0xE0 → 0xA0 ≤ b.toNat)
    (hscalar : a.toNat = 0xED → b.toNat ≤ 0x9F) :
    ∃ low high, Progress.ofLead a = .sequence ⟨[a], low, high, 1, a.toNat % 16⟩ ∧
      low.toNat ≤ b.toNat ∧ b.toNat ≤ high.toNat := by
  obtain ⟨hb, hb'⟩ := hb
  simp only [Progress.ofLead, UInt8.lt_iff_toNat_lt, ← UInt8.toNat_inj, UInt8.reduceToNat]
  rw [if_neg (by omega), if_neg (by omega), if_neg (by omega)]
  split
  · next h => exact ⟨0xA0, 0xBF, by rw [h], hlong h, hb'⟩
  split
  · next h => exact ⟨0x80, 0x9F, by rw [h], hb, hscalar h⟩
  · exact ⟨0x80, 0xBF, rfl, hb, hb'⟩

/-- The first byte of four allows every second one that makes no overlong form and no number above
U+10FFFF. -/
lemma ofLead_four {a b : UInt8} (ha : 0xF0 ≤ a.toNat) (ha' : a.toNat ≤ 0xF4)
    (hb : IsContinuation b) (hlong : a.toNat = 0xF0 → 0x90 ≤ b.toNat)
    (hscalar : a.toNat = 0xF4 → b.toNat ≤ 0x8F) :
    ∃ low high, Progress.ofLead a = .sequence ⟨[a], low, high, 2, a.toNat % 8⟩ ∧
      low.toNat ≤ b.toNat ∧ b.toNat ≤ high.toNat := by
  obtain ⟨hb, hb'⟩ := hb
  simp only [Progress.ofLead, UInt8.lt_iff_toNat_lt, ← UInt8.toNat_inj, UInt8.reduceToNat]
  rw [if_neg (by omega), if_neg (by omega), if_neg (by omega), if_neg (by omega), if_neg (by omega),
    if_neg (by omega)]
  split
  · next h => exact ⟨0x90, 0xBF, by rw [h], hlong h, hb'⟩
  split
  · exact ⟨0x80, 0xBF, rfl, hb, hb'⟩
  · have h : a.toNat = 0xF4 := by omega
    rw [if_pos h]
    exact ⟨0x80, 0x8F, by rw [h], hb, hscalar h⟩

/-! ### Bytes of a sequence -/

section

variable {done : List Piece} {held : Bytes} {low high b : UInt8} {bits : Nat}

/-- The last byte of a sequence makes it a character. -/
lemma step_last (hlow : low.toNat ≤ b.toNat) (hhigh : b.toNat ≤ high.toNat) :
    step ⟨done, some ⟨held, low, high, 0, bits⟩⟩ b =
      ⟨.scalar (.ofNat (bits * 64 + b.toNat % 64)) :: done, none⟩ := by
  have hrange : low ≤ b ∧ b ≤ high :=
    ⟨UInt8.le_iff_toNat_le.mpr hlow, UInt8.le_iff_toNat_le.mpr hhigh⟩
  simp only [step, Sequence.extend?, if_pos hrange, Decoding.advance]

/-- Any other byte after the first is added to the sequence. -/
lemma step_inner {n : Nat} (hlow : low.toNat ≤ b.toNat) (hhigh : b.toNat ≤ high.toNat) :
    step ⟨done, some ⟨held, low, high, n + 1, bits⟩⟩ b =
      ⟨done, some ⟨held ++ [b], 0x80, 0xBF, n, bits * 64 + b.toNat % 64⟩⟩ := by
  have hrange : low ≤ b ∧ b ≤ high :=
    ⟨UInt8.le_iff_toNat_le.mpr hlow, UInt8.le_iff_toNat_le.mpr hhigh⟩
  simp only [step, Sequence.extend?, if_pos hrange, Decoding.advance]

/-- The first byte of a longer form begins its sequence. -/
lemma step_lead {a : UInt8} {q : Sequence} (h : Progress.ofLead a = .sequence q) :
    step ⟨done, none⟩ a = ⟨done, some q⟩ := by
  simp only [step, h, Decoding.advance]

end

/-! ### Forms of texts -/

/-- A number that is a byte is the number of that byte. -/
lemma toNat_byte {n : Nat} (h : n < 256) : (UInt8.ofNat n).toNat = n := by
  rw [UInt8.toNat_ofNat', Nat.mod_eq_of_lt h]

/-- Reading the form of a character adds the character to the pieces. -/
lemma foldl_step_utf8EncodeChar (done : List Piece) (c : Char) :
    (String.utf8EncodeChar c).foldl step ⟨done, none⟩ = ⟨.scalar c :: done, none⟩ := by
  have hscalar {n : Nat} (h : n = c.val.toNat) : Piece.scalar (.ofNat n) = .scalar c := by
    rw [h]
    exact congrArg Piece.scalar (Char.ofNat_toNat c)
  have hvalid : c.val.toNat.isValidChar := c.valid
  rw [Nat.isValidChar] at hvalid
  fun_cases String.utf8EncodeChar c with
  | case1 v h =>
    have ha : (UInt8.ofNat v).toNat = v := toNat_byte (by omega)
    generalize UInt8.ofNat v = a at ha ⊢
    rw [List.foldl_cons, List.foldl_nil, step, ofLead_one (by omega)]
    simp only [Decoding.advance, hscalar ha]
  | case2 v h h' =>
    have ha : (UInt8.ofNat (v / 64 % 32 + 192)).toNat = v / 64 % 32 + 192 := toNat_byte (by omega)
    have hb : (UInt8.ofNat (v % 64 + 128)).toNat = v % 64 + 128 := toNat_byte (by omega)
    generalize UInt8.ofNat (v / 64 % 32 + 192) = a at ha ⊢
    generalize UInt8.ofNat (v % 64 + 128) = b at hb ⊢
    simp only [List.foldl_cons, List.foldl_nil]
    rw [step_lead (ofLead_two (by omega) (by omega)), step_last (by simp; omega) (by simp; omega),
      hscalar (by omega)]
  | case3 v h h' h'' =>
    have ha : (UInt8.ofNat (v / 4096 % 16 + 224)).toNat = v / 4096 % 16 + 224 :=
      toNat_byte (by omega)
    have hb : (UInt8.ofNat (v / 64 % 64 + 128)).toNat = v / 64 % 64 + 128 := toNat_byte (by omega)
    have hd : (UInt8.ofNat (v % 64 + 128)).toNat = v % 64 + 128 := toNat_byte (by omega)
    generalize UInt8.ofNat (v / 4096 % 16 + 224) = a at ha ⊢
    generalize UInt8.ofNat (v / 64 % 64 + 128) = b at hb ⊢
    generalize UInt8.ofNat (v % 64 + 128) = d at hd ⊢
    obtain ⟨low, high, hlead, hlow, hhigh⟩ := ofLead_three (a := a) (b := b) (by omega) (by omega)
      ⟨by omega, by omega⟩ (by omega) (by omega)
    simp only [List.foldl_cons, List.foldl_nil]
    rw [step_lead hlead, step_inner hlow hhigh, step_last (by simp; omega) (by simp; omega),
      hscalar (by omega)]
  | case4 v h h' h'' =>
    have ha : (UInt8.ofNat (v / 262144 % 8 + 240)).toNat = v / 262144 % 8 + 240 :=
      toNat_byte (by omega)
    have hb : (UInt8.ofNat (v / 4096 % 64 + 128)).toNat = v / 4096 % 64 + 128 :=
      toNat_byte (by omega)
    have hd : (UInt8.ofNat (v / 64 % 64 + 128)).toNat = v / 64 % 64 + 128 := toNat_byte (by omega)
    have he : (UInt8.ofNat (v % 64 + 128)).toNat = v % 64 + 128 := toNat_byte (by omega)
    generalize UInt8.ofNat (v / 262144 % 8 + 240) = a at ha ⊢
    generalize UInt8.ofNat (v / 4096 % 64 + 128) = b at hb ⊢
    generalize UInt8.ofNat (v / 64 % 64 + 128) = d at hd ⊢
    generalize UInt8.ofNat (v % 64 + 128) = e at he ⊢
    obtain ⟨low, high, hlead, hlow, hhigh⟩ := ofLead_four (a := a) (b := b) (by omega) (by omega)
      ⟨by omega, by omega⟩ (by omega) (by omega)
    simp only [List.foldl_cons, List.foldl_nil]
    rw [step_lead hlead, step_inner hlow hhigh, step_inner (by simp; omega) (by simp; omega),
      step_last (by simp; omega) (by simp; omega), hscalar (by omega)]

/-- The pieces of the form of a text are its characters. -/
lemma pieces_utf8 (text : String) : pieces (utf8 text) = text.toList.map .scalar := by
  have hfold (cs : List Char) (done : List Piece) :
      (cs.flatMap String.utf8EncodeChar).foldl step ⟨done, none⟩ =
        ⟨(cs.map Piece.scalar).reverse ++ done, none⟩ := by
    induction cs generalizing done with
    | nil => rfl
    | cons c cs ih =>
      rw [List.flatMap_cons, List.foldl_append, foldl_step_utf8EncodeChar, ih]
      simp
  rw [pieces, utf8_eq_flatMap, Decoding.empty, hfold]
  simp [Decoding.finish]

/-- A text is read back from its form. -/
theorem decode?_utf8 (text : String) : decode? (utf8 text) = some text.toList := by
  rw [decode?, pieces_utf8]
  induction text.toList with
  | nil => rfl
  | cons c cs ih => simp [Piece.scalar?, ih]

end Text

/-! ### Arguments -/

/-- The forms of texts are read as these texts. -/
lemma ArgVector.texts_map_utf8 (name : String) (arguments : List String) :
    texts name (arguments.map utf8) = .ok arguments := by
  induction arguments with
  | nil => rfl
  | cons argument rest ih =>
    rw [List.map_cons, texts, Text.decode?_utf8]
    simp only [ih, String.ofList_toList]

/-- The arguments of the program are read as texts if and only if they are their forms. -/
lemma ProgramRun.texts_eq_ok_iff {arguments : List Bytes} {ts : List String} :
    texts arguments = .ok ts ↔ arguments = ts.map utf8 := by
  constructor
  · intro h
    induction arguments generalizing ts with
    | nil =>
      cases h
      rfl
    | cons argument rest ih =>
      rw [texts] at h
      split at h
      · cases h
      · next text htext =>
        split at h
        · cases h
        · next others hothers =>
          cases h
          rw [List.map_cons, ← ih hothers, Text.utf8_of_decode?_eq_some htext]
  · rintro rfl
    induction ts with
    | nil => rfl
    | cons text rest ih =>
      rw [List.map_cons, texts, Text.decode?_utf8]
      simp only [ih, String.ofList_toList]

end CommandShell
