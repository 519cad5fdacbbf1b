import CommandShell.Proofs.Forms
import CommandShell.Proofs.PathArguments
import Mathlib

/-!
# Arguments that are no texts

A byte string is the UTF-8 form of a text, or it is not.  The strict reading of it and the one that
puts replacement characters in the place of malformed pieces agree on that: the first has an
answer, or the second gives the bytes back, if and only if the byte string is the form of a text
(`Text.decode?_eq_none_iff`, `Text.isUtf8_iff_utf8_display`).

A command that takes paths looks at this before all else.  The first argument after the name that
is no text is what it fails for, and then it has not acted at all
(`PathCommand.handler_of_noText`).  For another reason it does not fail in that way: with texts it
comes to other verdicts only (`PathCommand.yields_of_texts`).
-/

namespace CommandShell

namespace Text

/-- Bytes that are the UTF-8 form of a text. -/
def IsUtf8 (bytes : Bytes) : Prop :=
  bytes.toByteArray.IsValidUTF8

variable {bytes : Bytes}

lemma isUtf8_iff_exists : IsUtf8 bytes ↔ ∃ text, utf8 text = bytes := by
  constructor
  · intro h
    refine ⟨.ofByteArray bytes.toByteArray h, ?_⟩
    exact List.toList_data_toByteArray
  · rintro ⟨text, rfl⟩
    have hbytes : (utf8 text).toByteArray = text.toByteArray := by
      rw [utf8, String.toUTF8]
      ext1
      exact List.data_toByteArray.trans (Array.toArray_toList)
    rw [IsUtf8, hbytes]
    exact text.isValidUTF8

/-- A text is shown as it is. -/
lemma display_utf8 (text : String) : display (utf8 text) = text := by
  rw [display, lossy, pieces_utf8, List.map_map]
  exact (congrArg String.ofList (List.map_id _)).trans String.ofList_toList

/-- Replacement characters are put in exactly where there is no text. -/
theorem isUtf8_iff_utf8_display : IsUtf8 bytes ↔ utf8 (display bytes) = bytes := by
  rw [isUtf8_iff_exists]
  constructor
  · rintro ⟨text, rfl⟩
    rw [display_utf8]
  · exact fun h => ⟨_, h⟩

instance : DecidablePred IsUtf8 := fun _ => decidable_of_iff _ isUtf8_iff_utf8_display.symm

/-- The strict reading has no answer exactly where there is no text. -/
theorem decode?_eq_none_iff : decode? bytes = none ↔ ¬ IsUtf8 bytes := by
  rw [isUtf8_iff_exists]
  constructor
  · rintro hnone ⟨text, rfl⟩
    rw [decode?_utf8] at hnone
    cases hnone
  · intro h
    cases hsome : decode? bytes with
    | none => rfl
    | some text => exact absurd ⟨_, utf8_of_decode?_eq_some hsome⟩ h

end Text

open Text (IsUtf8)

namespace ArgVector

variable {arguments before after : List Bytes} {argument : Bytes} (name : String)

/-- Arguments that are texts are the forms of some texts. -/
lemma exists_eq_map_utf8 (h : ∀ a ∈ arguments, IsUtf8 a) :
    ∃ ts : List String, arguments = ts.map utf8 := by
  induction arguments with
  | nil => exact ⟨[], rfl⟩
  | cons argument rest ih =>
    obtain ⟨hargument, hrest⟩ := List.forall_mem_cons.mp h
    obtain ⟨text, rfl⟩ := Text.isUtf8_iff_exists.mp hargument
    obtain ⟨ts, rfl⟩ := ih hrest
    exact ⟨text :: ts, rfl⟩

/-- The first argument that is no text is what the arguments are refused for, whatever follows it.
-/
lemma texts_of_noText (hbefore : ∀ a ∈ before, IsUtf8 a) (hargument : ¬ IsUtf8 argument) :
    texts name (before ++ argument :: after) = .error (.notText name (Text.display argument)) := by
  induction before with
  | nil =>
    rw [List.nil_append, texts, Text.decode?_eq_none_iff.mpr hargument]
  | cons a before ih =>
    obtain ⟨ha, hrest⟩ := List.forall_mem_cons.mp hbefore
    obtain ⟨text, rfl⟩ := Text.isUtf8_iff_exists.mp ha
    rw [List.cons_append, texts, Text.decode?_utf8]
    simp only [ih hrest]

/-- If some argument is no text, there is a first one. -/
lemma exists_first_noText (h : ∃ a ∈ arguments, ¬ IsUtf8 a) :
    ∃ before argument after, arguments = before ++ argument :: after ∧
      (∀ a ∈ before, IsUtf8 a) ∧ ¬ IsUtf8 argument := by
  have hfind : (arguments.find? fun a => ¬ IsUtf8 a).isSome := by
    simpa [List.find?_isSome] using h
  obtain ⟨argument, hargument⟩ := Option.isSome_iff_exists.mp hfind
  obtain ⟨hno, before, after, rfl, hbefore⟩ := List.find?_eq_some_iff_append.mp hargument
  exact ⟨before, argument, after, rfl, by simpa using hbefore, by simpa using hno⟩

end ArgVector

/-- A verdict that is no refusal of an argument for being no text. -/
def Verdict.TakesTexts (v : Verdict) : Prop :=
  ∀ name argument, v ≠ .error (.notText name argument)

lemma Verdict.takesTexts_ok (status : Status) : TakesTexts (.ok status) :=
  fun _ _ h => nomatch h

namespace PathCommand

variable (c : PathCommand) {name argument : Bytes} {before after : List Bytes} {args : ArgVector}

/-- An argument that is no text is what a command fails for before it acts, if it is the first one.
-/
theorem handler_of_noText (hbefore : ∀ a ∈ before, IsUtf8 a) (hargument : ¬ IsUtf8 argument) :
    c.builtin.handler (name :: (before ++ argument :: after)) =
      .done (.error (.notText (Text.display name) (Text.display argument))) := by
  rw [handler_eq, Handler.withPaths]
  simp only [ArgVector.texts_of_noText _ hbefore hargument]

/-- Whatever comes of its paths, a command does not refuse them for being no texts. -/
lemma yields_act (paths : List String) : (c.act paths).Yields Verdict.TakesTexts := by
  have handedOn := Handler.Yields.handedOn Verdict.TakesTexts
  cases c with
  | create =>
    exact handedOn.createFiles (Verdict.takesTexts_ok .proceed) (fun _ _ => trivial)
      fun _ _ _ _ _ h => nomatch h
  | print =>
    exact handedOn.printFiles (Verdict.takesTexts_ok .proceed) (fun _ _ _ _ _ h => nomatch h)
      fun _ _ _ _ _ h => nomatch h

/-- A command whose arguments are texts does not fail for one that is none. -/
theorem yields_of_texts (h : ∀ a ∈ args.tail, IsUtf8 a) :
    (c.builtin.handler args).Yields Verdict.TakesTexts := by
  rw [handler_eq]
  refine .withPaths c.manual (Verdict.takesTexts_ok .proceed) (fun _ _ _ h => nomatch h) ?_
    fun paths _ => c.yields_act paths
  rintro name rest f rfl hrefused
  have hrest : ∀ a ∈ rest, IsUtf8 a := h
  obtain ⟨ts, rfl⟩ := ArgVector.exists_eq_map_utf8 hrest
  rw [ArgVector.texts_map_utf8] at hrefused
  cases hrefused

variable {σ τ ℓ : Type} [Sink σ] [Launcher ℓ]

/-- A command that takes paths fails for an argument that is no text if and only if there is one
after the name, which need not be a text itself; and there is one if and only if putting in
replacement characters changes the bytes of one.  It is told of the first such argument, as that is
shown, whatever stands before it and after it; and nothing else is done for that: the handler has
no acts, so that the session stays as it was. -/
theorem run_eq_notText (args : ArgVector) (s : Session σ τ ℓ) :
    ((∃ name argument, (c.builtin.run args s).1 = .error (.notText name argument)) ↔
      ∃ a ∈ args.tail, ¬ IsUtf8 a) ∧
    ((∃ a ∈ args.tail, ¬ IsUtf8 a) ↔ ∃ a ∈ args.tail, utf8 (Text.display a) ≠ a) ∧
    ∀ name before argument after, args = name :: (before ++ argument :: after) →
      (∀ a ∈ before, IsUtf8 a) → ¬ IsUtf8 argument →
      let f := Failure.notText (Text.display name) (Text.display argument)
      f.message = Text.display name ++ ": argument is not valid UTF-8: " ++ Text.display argument ∧
        c.builtin.handler args = .done (.error f) ∧ c.builtin.run args s = (.error f, s) := by
  refine ⟨⟨?_, ?_⟩, ?_, ?_⟩
  · rintro ⟨name, argument, hverdict⟩
    by_contra hnone
    have htexts : ∀ a ∈ args.tail, IsUtf8 a := by simpa using hnone
    exact (c.yields_of_texts htexts).run (Verdict.takesTexts_ok .proceed) s name argument hverdict
  · intro hsome
    obtain ⟨before, argument, after, htail, hbefore, hargument⟩ :=
      ArgVector.exists_first_noText hsome
    cases args with
    | nil => cases before <;> cases htail
    | cons name rest =>
      obtain rfl : rest = before ++ argument :: after := htail
      exact ⟨_, _, by rw [Builtin.run, c.handler_of_noText hbefore hargument, Handler.run_done]⟩
  · simp only [Text.isUtf8_iff_utf8_display, ne_eq]
  · rintro name before argument after rfl hbefore hargument f
    have hhandler : c.builtin.handler (name :: (before ++ argument :: after)) = .done (.error f) :=
      c.handler_of_noText hbefore hargument
    exact ⟨rfl, hhandler, by rw [Builtin.run, hhandler, Handler.run_done]⟩

/-- An overlong form of the slash and a surrogate are no text; the first of them is what `cr` fails
for, though `--man` and a path stand before it, and it creates nothing.  The name may be no text.
-/
theorem run_eq_notText_overlong :
    let s := Session.start LimitedSink.unlimited LimitedSink.unlimited (⟨[]⟩ : ScriptedLauncher)
      ⟨[], [], [], []⟩ .off
    let overlong : Bytes := [0xC0, 0xAF]
    let surrogate : Bytes := [0x61, 0xED, 0xA0, 0x80]
    create.builtin.run [utf8 "cr", utf8 "--man", utf8 "f", overlong, surrogate] s =
        (.error (.notText "cr" "��"), s) ∧
      ∀ name argument, (create.builtin.run [overlong, utf8 "--man", utf8 "f"] s).1 ≠
        .error (.notText name argument) := by
  intro s overlong surrogate
  obtain ⟨-, -, hfirst⟩ :=
    create.run_eq_notText [utf8 "cr", utf8 "--man", utf8 "f", overlong, surrogate] s
  obtain ⟨hiff, -, -⟩ := create.run_eq_notText [overlong, utf8 "--man", utf8 "f"] s
  constructor
  · exact (hfirst _ [utf8 "--man", utf8 "f"] overlong [surrogate] rfl (by decide) (by decide)).2.2
  · intro name argument hverdict
    exact absurd (hiff.mp ⟨name, argument, hverdict⟩) (by decide)

end PathCommand

end CommandShell
