import CommandShell.ArgVector
import Mathlib.Data.List.Basic

/-!
# Lines and the arguments on them

A *layout* is a way to write arguments on a line: a gap, then each argument with the gap after it.
Gaps consist of delimiters only, arguments are not empty and have no delimiter in them, and only the
first and the last gap may be empty.

Cutting a line into arguments inverts this.  Every line has a layout (`exists_layout`), and whatever
the layout, cutting its line gives back its arguments (`Layout.ofLine_line`).  So the arguments of a
line are the only ones that a layout of that line can have.
-/

namespace CommandShell

/-- The delimiters are blank, tab, carriage return, newline, bell and the single quote. -/
lemma isDelimiter_iff (b : UInt8) : isDelimiter b = true ↔
    b = 0x20 ∨ b = 0x09 ∨ b = 0x0D ∨ b = 0x0A ∨ b = 0x07 ∨ b = 0x27 := by
  simp [isDelimiter, delimiters]

/-- A gap consists of delimiters only. -/
def IsGap (bytes : Bytes) : Prop :=
  ∀ b ∈ bytes, isDelimiter b = true

/-- An argument is not empty and has no delimiter in it. -/
def IsArgument (bytes : Bytes) : Prop :=
  bytes ≠ [] ∧ ∀ b ∈ bytes, isDelimiter b = false

/-- A way to write arguments on a line. -/
structure Layout where
  /-- The gap before the first argument. -/
  lead : Bytes
  /-- The arguments, each with the gap after it. -/
  pieces : List (Bytes × Bytes)
  isGap_lead : IsGap lead
  isArgument : ∀ p ∈ pieces, IsArgument p.1
  isGap : ∀ p ∈ pieces, IsGap p.2
  /-- Only the last gap may be empty. -/
  separated : ∀ p ∈ pieces.dropLast, p.2 ≠ []

namespace Layout

/-- Arguments with the gaps after them, written one after the other. -/
def body (pieces : List (Bytes × Bytes)) : Bytes :=
  pieces.flatMap fun p => p.1 ++ p.2

/-- The line of a layout. -/
def line (l : Layout) : Bytes :=
  l.lead ++ body l.pieces

/-- The arguments of a layout. -/
def arguments (l : Layout) : ArgVector :=
  l.pieces.map Prod.fst

end Layout

namespace ArgVector

/-! ### Cutting at a delimiter -/

/-- The empty line has no arguments. -/
lemma ofLine_nil : ofLine [] = [] := rfl

/-- The arguments of a line are those before any of its delimiters, and those after it. -/
lemma ofLine_append_cons (a b : Bytes) {d : UInt8} (hd : isDelimiter d = true) :
    ofLine (a ++ d :: b) = ofLine a ++ ofLine b := by
  rw [ofLine, List.splitOnP_append_cons a b hd, List.filter_append]
  rfl

/-- Delimiters at the beginning of a line make no difference. -/
lemma ofLine_gap_append {g : Bytes} (hg : IsGap g) (rest : Bytes) :
    ofLine (g ++ rest) = ofLine rest := by
  induction g with
  | nil => rfl
  | cons d g ih =>
    have hd : isDelimiter d = true := hg d List.mem_cons_self
    have hcut : ofLine ([] ++ d :: (g ++ rest)) = ofLine [] ++ ofLine (g ++ rest) :=
      ofLine_append_cons [] (g ++ rest) hd
    rw [List.nil_append] at hcut
    rw [List.cons_append, hcut, ih fun b hb => hg b (List.mem_cons_of_mem d hb)]
    rfl

/-- A gap has no arguments. -/
lemma ofLine_gap {g : Bytes} (hg : IsGap g) : ofLine g = [] := by
  have h := ofLine_gap_append hg []
  rwa [List.append_nil] at h

/-- A line that is an argument has no other one. -/
lemma ofLine_argument {t : Bytes} (ht : IsArgument t) : ofLine t = [t] := by
  have hne : t.isEmpty = false := by simpa using ht.1
  rw [ofLine, List.splitOnP_eq_singleton ht.2]
  simp [hne]

/-- An argument and a gap that follows it are the first argument of a line. -/
lemma ofLine_argument_append {t g : Bytes} (ht : IsArgument t) (hg : IsGap g) (hne : g ≠ [])
    (rest : Bytes) : ofLine (t ++ g ++ rest) = t :: ofLine rest := by
  obtain ⟨d, g', rfl⟩ := List.exists_cons_of_ne_nil hne
  have hd : isDelimiter d = true := hg d List.mem_cons_self
  have hg' : IsGap g' := fun b hb => hg b (List.mem_cons_of_mem d hb)
  calc ofLine (t ++ d :: g' ++ rest)
      = ofLine (t ++ d :: (g' ++ rest)) := by rw [List.append_assoc, List.cons_append]
    _ = ofLine t ++ ofLine (g' ++ rest) := ofLine_append_cons t (g' ++ rest) hd
    _ = t :: ofLine rest := by rw [ofLine_argument ht, ofLine_gap_append hg', List.singleton_append]

end ArgVector

namespace Layout

open ArgVector

/-! ### Cutting the line of a layout -/

/-- Cutting separated arguments gives them back. -/
lemma ofLine_body {pieces : List (Bytes × Bytes)} (harg : ∀ p ∈ pieces, IsArgument p.1)
    (hgap : ∀ p ∈ pieces, IsGap p.2) (hsep : ∀ p ∈ pieces.dropLast, p.2 ≠ []) :
    ofLine (body pieces) = pieces.map Prod.fst := by
  induction pieces with
  | nil => rfl
  | cons p ps ih =>
    have ht : IsArgument p.1 := harg p List.mem_cons_self
    have hg : IsGap p.2 := hgap p List.mem_cons_self
    cases ps with
    | nil =>
      -- The gap after the last argument may be empty, so the line may end with that argument.
      rcases eq_or_ne p.2 [] with he | hne
      · simp [body, he, ofLine_argument ht]
      · have h := ofLine_argument_append ht hg hne []
        rw [List.append_nil, ofLine_nil] at h
        simpa [body] using h
    | cons q qs =>
      have hne : p.2 ≠ [] := hsep p (by simp)
      have hrest : ofLine (body (q :: qs)) = (q :: qs).map Prod.fst :=
        ih (fun r hr => harg r (List.mem_cons_of_mem p hr))
          (fun r hr => hgap r (List.mem_cons_of_mem p hr))
          (fun r hr => hsep r (by simpa using Or.inr hr))
      have hbody : body (p :: q :: qs) = p.1 ++ p.2 ++ body (q :: qs) := by simp [body]
      rw [hbody, ofLine_argument_append ht hg hne, hrest]
      rfl

/-- Cutting the line of a layout gives back its arguments. -/
lemma ofLine_line (l : Layout) : ofLine l.line = l.arguments := by
  rw [line, ofLine_gap_append l.isGap_lead, ofLine_body l.isArgument l.isGap l.separated, arguments]

/-! ### Finding a layout -/

/-- A delimiter before the line of a layout widens its first gap. -/
def consDelimiter (l : Layout) (d : UInt8) (hd : isDelimiter d = true) : Layout :=
  { l with
    lead := d :: l.lead
    isGap_lead := by
      intro b hb
      rcases List.mem_cons.mp hb with rfl | hb
      · exact hd
      · exact l.isGap_lead b hb }

lemma line_consDelimiter (l : Layout) (d : UInt8) (hd : isDelimiter d = true) :
    (l.consDelimiter d hd).line = d :: l.line := rfl

/-- A byte that is no delimiter is an argument. -/
lemma isArgument_singleton {c : UInt8} (hc : isDelimiter c = false) : IsArgument [c] := by
  refine ⟨List.cons_ne_nil c [], ?_⟩
  intro b hb
  rwa [List.mem_singleton.mp hb]

/-- A byte that is no delimiter makes an argument longer. -/
lemma IsArgument.cons {c : UInt8} (hc : isDelimiter c = false) {t : Bytes} (ht : IsArgument t) :
    IsArgument (c :: t) := by
  refine ⟨List.cons_ne_nil c t, ?_⟩
  intro b hb
  rcases List.mem_cons.mp hb with rfl | hb
  · exact hc
  · exact ht.2 b hb

/-- If a line has a layout, so has the line with one more byte before it: that byte widens the first
gap, or it is an argument of its own before that gap, or it belongs to the first argument. -/
lemma exists_line_eq_cons (l : Layout) (c : UInt8) : ∃ l' : Layout, l'.line = c :: l.line := by
  cases hc : isDelimiter c with
  | true => exact ⟨l.consDelimiter c hc, l.line_consDelimiter c hc⟩
  | false =>
    obtain ⟨lead, pieces, hlead, harg, hgap, hsep⟩ := l
    by_cases hjoin : lead = [] ∧ pieces ≠ []
    · obtain ⟨rfl, hne⟩ := hjoin
      obtain ⟨⟨t, g⟩, ps, rfl⟩ := List.exists_cons_of_ne_nil hne
      have ht : IsArgument (c :: t) := IsArgument.cons hc (harg (t, g) List.mem_cons_self)
      refine ⟨⟨[], (c :: t, g) :: ps, hlead, ?_, ?_, ?_⟩, rfl⟩
      · exact List.forall_mem_cons.mpr ⟨ht, (List.forall_mem_cons.mp harg).2⟩
      · exact List.forall_mem_cons.mpr (List.forall_mem_cons.mp hgap)
      · cases ps with
        | nil => simp
        | cons q qs =>
          rw [List.dropLast_cons_cons] at hsep ⊢
          exact List.forall_mem_cons.mpr (List.forall_mem_cons.mp hsep)
    · refine ⟨⟨[], ([c], lead) :: pieces, ?_, ?_, ?_, ?_⟩, rfl⟩
      · exact fun b hb => absurd hb List.not_mem_nil
      · exact List.forall_mem_cons.mpr ⟨isArgument_singleton hc, harg⟩
      · exact List.forall_mem_cons.mpr ⟨hlead, hgap⟩
      · cases pieces with
        | nil => simp
        | cons q qs =>
          rw [List.dropLast_cons_cons]
          exact List.forall_mem_cons.mpr ⟨fun he => hjoin ⟨he, List.cons_ne_nil q qs⟩, hsep⟩

end Layout

/-- Every line has a layout. -/
lemma exists_layout (line : Bytes) : ∃ l : Layout, l.line = line := by
  induction line with
  | nil =>
    have hnone : ∀ p ∈ ([] : List (Bytes × Bytes)), False := fun p hp => List.not_mem_nil hp
    exact ⟨⟨[], [], fun b hb => absurd hb List.not_mem_nil, fun p hp => (hnone p hp).elim,
      fun p hp => (hnone p hp).elim, fun p hp => (hnone p hp).elim⟩, rfl⟩
  | cons c rest ih =>
    obtain ⟨l, rfl⟩ := ih
    exact l.exists_line_eq_cons c

namespace ArgVector

/-- A line without arguments consists of delimiters. -/
lemma isGap_of_ofLine_eq_nil {line : Bytes} (h : ofLine line = []) : IsGap line := by
  obtain ⟨l, rfl⟩ := exists_layout line
  rw [l.ofLine_line] at h
  have hnil : l.pieces = [] := List.map_eq_nil_iff.mp h
  have hline : l.line = l.lead := by simp [Layout.line, Layout.body, hnil]
  rw [hline]
  exact l.isGap_lead

/-- An argument is not empty and has no delimiter in it. -/
lemma isArgument_of_mem_ofLine {line t : Bytes} (h : t ∈ ofLine line) : IsArgument t := by
  obtain ⟨l, rfl⟩ := exists_layout line
  rw [l.ofLine_line, Layout.arguments, List.mem_map] at h
  obtain ⟨p, hp, rfl⟩ := h
  exact l.isArgument p hp

/-! ### The arguments of a line -/

/-- The arguments of a line are the only ones that a layout of the line can have, and there is such
a layout; cutting the line of any layout gives its arguments back.  There are none just if the line
is a gap, and at each delimiter the line can be cut into two whose arguments follow each other.  The
vector that holds the arguments holds all of them in order, however often it has to grow. -/
theorem ofLine_eq_iff_layout (line : Bytes) :
    (∀ args : ArgVector, ofLine line = args ↔ ∃ l : Layout, l.line = line ∧ l.arguments = args) ∧
    (∀ l : Layout, ofLine l.line = l.arguments) ∧
    (ofLine line = [] ↔ IsGap line) ∧
    (∀ (a b : Bytes) (d : UInt8), isDelimiter d = true →
      ofLine (a ++ [d] ++ b) = ofLine a ++ ofLine b) ∧
    (GrowingBuffer.ofList slotStep (ofLine line)).toList = ofLine line := by
  refine ⟨?_, Layout.ofLine_line, ⟨isGap_of_ofLine_eq_nil, ofLine_gap⟩, ?_,
    GrowingBuffer.toList_ofList slotStep (ofLine line)⟩
  · intro args
    constructor
    · rintro rfl
      obtain ⟨l, rfl⟩ := exists_layout line
      exact ⟨l, rfl, l.ofLine_line.symm⟩
    · rintro ⟨l, rfl, rfl⟩
      exact l.ofLine_line
  · intro a b d hd
    rw [List.append_assoc, List.singleton_append]
    exact ofLine_append_cons a b hd

/-- Cutting `echo 'a b'` at its last blank, which stands inside quotation marks. -/
theorem ofLine_cut_inside_quotes :
    isDelimiter 0x20 = true ∧
      ofLine ([0x65, 0x63, 0x68, 0x6F, 0x20, 0x27, 0x61] ++ [0x20] ++ [0x62, 0x27]) =
        ofLine [0x65, 0x63, 0x68, 0x6F, 0x20, 0x27, 0x61] ++ ofLine [0x62, 0x27] :=
  ⟨by decide, (ofLine_eq_iff_layout []).2.2.2.1 _ _ 0x20 (by decide)⟩

end ArgVector

end CommandShell
