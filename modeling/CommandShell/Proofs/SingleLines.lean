import CommandShell.Proofs.Layout
import CommandShell.Proofs.Verdicts

/-!
# Failures in one line

The message of a failure has no newline unless it quotes one or the cause of the failure has one
(`Failure.oneLine_message`).  What the builtin commands quote in their failures are arguments, and
no argument of a line has a newline in it; shown as a text it has none either
(`Verdict.Quotes.oneLine`).
-/

namespace CommandShell

/-! ### Texts without a newline -/

namespace Text

/-- A text without a newline. -/
def OneLine (text : String) : Prop :=
  '\n' ∉ text.toList

instance (text : String) : Decidable (OneLine text) :=
  inferInstanceAs (Decidable ('\n' ∉ text.toList))

lemma oneLine_append {a b : String} : OneLine (a ++ b) ↔ OneLine a ∧ OneLine b := by
  simp [OneLine]

/-- Texts without newlines make one when they are joined. -/
lemma oneLine_intercalate {separator : String} (hs : OneLine separator) {texts : List String}
    (h : ∀ text ∈ texts, OneLine text) : OneLine (separator.intercalate texts) := by
  induction texts with
  | nil => simp [OneLine]
  | cons text rest ih =>
    obtain ⟨htext, hrest⟩ := List.forall_mem_cons.mp h
    cases rest with
    | nil => rwa [String.intercalate_singleton]
    | cons next rest =>
      rw [String.intercalate_cons_cons]
      exact oneLine_append.mpr ⟨oneLine_append.mpr ⟨htext, hs⟩, ih hrest⟩

end Text

open Text (OneLine)

namespace Failure

/-- A failure is told in one line if what it quotes is, and its cause. -/
lemma oneLine_message {f : Failure} (hquoted : ∀ text ∈ f.quoted, OneLine text)
    (hcause : ∀ e, f.cause? = some e → OneLine e.message) : OneLine f.message := by
  refine Text.oneLine_intercalate (by decide) fun layer hlayer => ?_
  cases f with
  | notText name argument =>
    obtain rfl := List.mem_singleton.mp hlayer
    refine Text.oneLine_append.mpr ⟨Text.oneLine_append.mpr ⟨?_, by decide⟩, ?_⟩
    · exact hquoted name (by simp [quoted])
    · exact hquoted argument (by simp [quoted])
  | cannotCreate path e | cannotOpen path e | cannotRead path e =>
    rcases List.mem_pair.mp hlayer with rfl | rfl
    · exact Text.oneLine_append.mpr ⟨by decide, hquoted path (by simp [quoted])⟩
    · exact hcause e rfl
  | output e =>
    obtain rfl := List.mem_singleton.mp hlayer
    exact hcause e rfl
  | broken =>
    obtain rfl := List.mem_singleton.mp hlayer
    decide
  | layered =>
    revert layer
    decide
  | told outermost causes => exact hquoted layer hlayer

end Failure

/-! ### Arguments of a line -/

/-- The arguments of a line have no newline. -/
lemma ArgVector.newline_notMem_of_mem_ofLine {line argument : Bytes}
    (h : argument ∈ ArgVector.ofLine line) : LineRead.newline ∉ argument := by
  intro hnewline
  have hfalse := (isArgument_of_mem_ofLine h).2 _ hnewline
  revert hfalse
  decide

/-- What is quoted of the arguments of a line has no newline. -/
lemma Verdict.Quotes.oneLine {line : Bytes} {f : Failure}
    (h : Quotes (.ofLine line) (.error f)) : ∀ text ∈ f.quoted, OneLine text := by
  intro text htext
  rcases h f rfl text htext with hargument | ⟨argument, hargument, rfl⟩
  · rw [OneLine, ← Text.newline_mem_utf8_iff]
    exact ArgVector.newline_notMem_of_mem_ofLine hargument
  · exact Text.newline_notMem_display (ArgVector.newline_notMem_of_mem_ofLine hargument)

end CommandShell
