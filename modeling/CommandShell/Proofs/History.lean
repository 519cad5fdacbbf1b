import CommandShell.Loop
import Mathlib.Data.List.Basic

/-!
# How the history grows

Every act of a session adds events at the end of its history and leaves the earlier ones alone.
Which events an act may add is all that most theorems about the order of effects need to know of it.
`Session.Adds` says this of each act, of a prompt and of a builtin command.

Handlers are trees of acts.  What holds of a single act, of doing nothing and of one thing after the
other holds of every handler (`Handler.run_rel`), and nothing here looks into a handler otherwise.

Some acts change nothing but the history (`Session.Unmoved`), and most change nothing but that and
the streams (`Session.Untouched`).

Launching is the only act whose events have to come in an order: the flush before the launch,
records, the launch, and what comes of it (`Session.exists_events_runProgram`).
-/

namespace CommandShell

namespace Event

/-- Whether an event is one of a handler: on the output, or of a program that writes meanwhile. -/
def isOfHandler : Event → Bool
  | output _ | flushed _ | written _ _ => true
  | _ => false

/-- Whether an event has to do neither with the input nor with a launch. -/
def isLocal : Event → Bool
  | asked | launched _ => false
  | _ => true

/-- What handlers do has nothing to do with the input or with launches. -/
lemma isLocal_of_isOfHandler {e : Event} (h : e.isOfHandler = true) : e.isLocal = true := by
  cases e <;> first | rfl | cases h

/-- The arguments of a launch. -/
def launched? : Event → Option ArgVector
  | launched args => some args
  | _ => none

/-- No local event is a launch. -/
lemma launched?_of_isLocal {e : Event} (h : e.isLocal = true) : e.launched? = none := by
  cases e <;> first | rfl | cases h

end Event

namespace Handler

variable {σ τ ℓ : Type} [Sink σ] [Launcher ℓ]

/-- What each act does to a session, and what follows from doing nothing and from doing one thing
after the other, is what a handler does. -/
theorem run_rel {R : Session σ τ ℓ → Session σ τ ℓ → Prop} (refl : ∀ s, R s s)
    (trans : ∀ {s t u}, R s t → R t u → R s u) (print : ∀ s bytes, R s (s.print bytes).2)
    (offer : ∀ s bytes, R s (s.offer bytes).2) (flush : ∀ s, R s s.flush.2)
    (read : ∀ s path, R s (s.readFile path).2) (append : ∀ s path, R s (s.appendTo path).2)
    (change : ∀ s f, R s (s.changeFiles f)) (c : Handler) (s : Session σ τ ℓ) :
    R s (c.run s).2 := by
  induction c generalizing s with
  | done v => exact refl s
  | print bytes next ih => exact trans (print s bytes) (ih _ _)
  | offer bytes next ih => exact trans (offer s bytes) (ih _ _)
  | flush next ih => exact trans (flush s) (ih _ _)
  | read path next ih =>
    have hread : R s (s.readFile path).2 := read s path
    rw [run_read]
    generalize s.readFile path = answered at hread ⊢
    rcases answered with ⟨_ | answer, s'⟩
    · exact hread
    · exact trans hread (ih answer s')
  | append path next ih =>
    have happend : R s (s.appendTo path).2 := append s path
    rw [run_append]
    generalize s.appendTo path = answered at happend ⊢
    rcases answered with ⟨_ | answer, s'⟩
    · exact happend
    · exact trans happend (ih answer s')
  | change f next ih => exact trans (change s f) (ih _ _)

end Handler

namespace Session

variable {β σ τ ℓ : Type}

/-- The argument vectors that were handed to the launcher, in order. -/
def launches (s : Session σ τ ℓ) : List ArgVector :=
  s.events.filterMap Event.launched?

/-- An event is added at the end. -/
@[simp] lemma events_happen (s : Session σ τ ℓ) (e : Event) :
    (s.happen e).events = s.events ++ [e] := by
  simp [events, happen]

@[simp] lemma events_start (out : σ) (err : τ) (launcher : ℓ) (files : FileSystem) (v : Verbosity) :
    (start out err launcher files v).events = [] := rfl

/-- A session has become another one through events of a kind. -/
def Adds (kind : Event → Bool) (s s' : Session σ τ ℓ) : Prop :=
  ∃ new, s'.events = s.events ++ new ∧ ∀ e ∈ new, kind e = true

namespace Adds

variable {kind : Event → Bool} {s s' s'' : Session σ τ ℓ}

lemma refl (s : Session σ τ ℓ) : Adds kind s s :=
  ⟨[], (List.append_nil _).symm, fun _ he => absurd he List.not_mem_nil⟩

/-- Only the history counts. -/
lemma of_history_eq (h : s'.history = s.history) : Adds kind s s' :=
  ⟨[], by rw [events, h, ← events, List.append_nil], fun _ he => absurd he List.not_mem_nil⟩

lemma trans (h : Adds kind s s') (h' : Adds kind s' s'') : Adds kind s s'' := by
  obtain ⟨new, hnew, hkind⟩ := h
  obtain ⟨new', hnew', hkind'⟩ := h'
  refine ⟨new ++ new', by rw [hnew', hnew, List.append_assoc], fun e he => ?_⟩
  exact (List.mem_append.mp he).elim (hkind e) (hkind' e)

lemma mono {kind' : Event → Bool} (hk : ∀ e, kind e = true → kind' e = true) (h : Adds kind s s') :
    Adds kind' s s' := by
  obtain ⟨new, hnew, hkind⟩ := h
  exact ⟨new, hnew, fun e he => hk e (hkind e he)⟩

/-- What a history comes to stays the same where no event of the kind contributes to it. -/
lemma filterMap_events {α : Type} {f : Event → Option α} (h : Adds kind s s')
    (hf : ∀ e, kind e = true → f e = none) : s'.events.filterMap f = s.events.filterMap f := by
  obtain ⟨new, hnew, hkind⟩ := h
  rw [hnew, List.filterMap_append,
    List.filterMap_eq_nil_iff.mpr fun e he => hf e (hkind e he), List.append_nil]

/-- Local events are no launches. -/
lemma launches_eq (h : Adds Event.isLocal s s') : s'.launches = s.launches :=
  h.filterMap_events fun _ => Event.launched?_of_isLocal

/-! ### Single acts -/

lemma happen {e : Event} (he : kind e = true) : Adds kind s (s.happen e) :=
  ⟨[e], events_happen s e, fun _ h => List.mem_singleton.mp h ▸ he⟩

/-- An event of something that may not have changed the history before. -/
lemma happen_of_history_eq {e : Event} (he : kind e = true) (h : s'.history = s.history) :
    Adds kind s (s'.happen e) :=
  (of_history_eq h).trans (happen he)

lemma note {r : Record} (hr : kind (.noted r) = true) : Adds kind s (s.note r) := by
  rw [Session.note]
  split
  · exact happen hr
  · exact refl s

lemma noteAll {rs : List Record} (hrs : ∀ r ∈ rs, kind (.noted r) = true) :
    Adds kind s (s.noteAll rs) := by
  induction rs generalizing s with
  | nil => exact refl s
  | cons r rs ih =>
    obtain ⟨hr, hrest⟩ := List.forall_mem_cons.mp hrs
    exact (note hr).trans (ih hrest)

lemma written (hk : ∀ c bytes, kind (.written c bytes) = true) (pieces : List (Channel × Bytes)) :
    Adds kind s (pieces.foldl (fun s w => s.happen (.written w.1 w.2)) s) := by
  induction pieces generalizing s with
  | nil => exact refl s
  | cons w rest ih => exact (happen (hk w.1 w.2)).trans ih

lemma takeAccess {α : Type} (hk : ∀ c bytes, kind (.written c bytes) = true)
    (r : AccessReport ℓ α) : Adds kind s (s.takeAccess r) := by
  have hreplaced : Adds kind s { s with launcher := r.launcher, files := r.files } :=
    of_history_eq rfl
  exact hreplaced.trans (written hk r.written)

section

variable [Sink σ]

lemma print (hk : ∀ bytes, kind (.output bytes) = true) (bytes : Bytes) :
    Adds kind s (s.print bytes).2 := by
  simp only [Session.print]
  split
  · exact of_history_eq rfl
  · exact happen_of_history_eq (hk _) rfl

lemma offer (hk : ∀ bytes, kind (.output bytes) = true) (bytes : Bytes) :
    Adds kind s (s.offer bytes).2 := by
  simp only [Session.offer]
  split
  · exact of_history_eq rfl
  · exact happen_of_history_eq (hk _) rfl

lemma printTexts (hk : ∀ bytes, kind (.output bytes) = true) (texts : List String) :
    Adds kind s (s.printTexts texts).2 := by
  induction texts generalizing s with
  | nil => exact refl s
  | cons text rest ih =>
    have hfirst : Adds kind s (s.print (utf8 text)).2 := print hk (utf8 text)
    rw [Session.printTexts]
    split
    · next heq => rwa [heq] at hfirst
    · next heq =>
      rw [heq] at hfirst
      exact hfirst.trans ih

lemma flush (hk : ∀ success, kind (.flushed success) = true) : Adds kind s s.flush.2 :=
  happen_of_history_eq (hk _) rfl

end

lemma report [Sink τ] (hk : ∀ bytes, kind (.diagnostics bytes) = true) (text : String) :
    Adds kind s (s.report text) := by
  simp only [Session.report]
  split
  · exact of_history_eq rfl
  · exact happen_of_history_eq (hk _) rfl

variable [Sink σ] [Launcher ℓ]

/-! ### Handlers, builtin commands, prompts -/

omit [Sink σ] in
/-- A call of the launcher adds the launch, what the launcher notes and what the program writes. -/
lemma launch (hlaunched : ∀ args, kind (.launched args) = true)
    (hwritten : ∀ c bytes, kind (.written c bytes) = true) {args : ArgVector}
    (hnoted : ∀ r ∈ (Launcher.launch s.launcher s.files args).records, kind (.noted r) = true) :
    Adds kind s (s.launch args).2 := by
  simp only [Session.launch]
  generalize Launcher.launch s.launcher s.files args = report at hnoted ⊢
  have hlaunch : Adds kind s
      (({ s with launcher := report.launcher, files := report.files }).happen (.launched args)) :=
    happen_of_history_eq (hlaunched args) rfl
  exact (hlaunch.trans (noteAll hnoted)).trans (written hwritten report.written)

/-- A handler adds nothing but events of handlers. -/
theorem handler (c : Handler) (s : Session σ τ ℓ) : Adds Event.isOfHandler s (c.run s).2 := by
  refine Handler.run_rel (R := Adds Event.isOfHandler) refl trans ?_ ?_ ?_ ?_ ?_ ?_ c s
  · exact fun s bytes => print (fun _ => rfl) bytes
  · exact fun s bytes => offer (fun _ => rfl) bytes
  · exact fun s => flush fun _ => rfl
  · exact fun s path => takeAccess (fun _ _ => rfl) _
  · exact fun s path => takeAccess (fun _ _ => rfl) _
  · exact fun s f => of_history_eq rfl

/-- A builtin command neither asks for a line nor launches anything. -/
lemma runBuiltin [HasHandler β] [Sink τ] (b : β) (args : ArgVector) :
    Adds Event.isLocal s (s.runBuiltin b args).2 := by
  have hhandler : Adds Event.isLocal s ((HasHandler.handler b args).run s).2 :=
    (handler (HasHandler.handler b args) s).mono fun _ => Event.isLocal_of_isOfHandler
  rw [Session.runBuiltin]
  split
  · next heq => rwa [heq] at hhandler
  · next heq =>
    rw [heq] at hhandler
    exact hhandler.trans (report (fun _ => rfl) _)

omit [Launcher ℓ] in
/-- The current directory is printed. -/
lemma printDirectory : Adds Event.isOfHandler s s.printDirectory.2 := by
  rw [Session.printDirectory]
  split
  · exact printTexts (fun _ => rfl) _
  · exact refl s

omit [Launcher ℓ] in
/-- A prompt is printed and flushed. -/
lemma prompt (wanted : Bool) : Adds Event.isOfHandler s (s.prompt wanted).2 := by
  have hprinted : Adds Event.isOfHandler s s.printDirectory.2 := printDirectory
  rw [Session.prompt]
  split
  · split
    · next heq => rwa [heq] at hprinted
    · next heq =>
      rw [heq] at hprinted
      exact hprinted.trans (flush fun _ => rfl)
  · exact refl s

end Adds

/-! ### What stays as it is -/

/-- Nothing but the streams and the history has changed. -/
structure Untouched (s s' : Session σ τ ℓ) : Prop where
  launcher : s'.launcher = s.launcher
  files : s'.files = s.files
  verbosity : s'.verbosity = s.verbosity

/-- Nothing but the history has changed. -/
structure Unmoved (s s' : Session σ τ ℓ) : Prop extends Untouched s s' where
  out : s'.out = s.out
  err : s'.err = s.err

namespace Unmoved

variable {s s' s'' : Session σ τ ℓ}

lemma refl (s : Session σ τ ℓ) : Unmoved s s :=
  ⟨⟨rfl, rfl, rfl⟩, rfl, rfl⟩

lemma trans (h : Unmoved s s') (h' : Unmoved s' s'') : Unmoved s s'' where
  launcher := h'.launcher.trans h.launcher
  files := h'.files.trans h.files
  verbosity := h'.verbosity.trans h.verbosity
  out := h'.out.trans h.out
  err := h'.err.trans h.err

lemma happen (s : Session σ τ ℓ) (e : Event) : Unmoved s (s.happen e) :=
  ⟨⟨rfl, rfl, rfl⟩, rfl, rfl⟩

lemma note (s : Session σ τ ℓ) (r : Record) : Unmoved s (s.note r) := by
  rw [Session.note]
  split
  · exact happen s _
  · exact refl s

lemma noteAll (s : Session σ τ ℓ) (rs : List Record) : Unmoved s (s.noteAll rs) := by
  induction rs generalizing s with
  | nil => exact refl s
  | cons r rs ih => exact (note s r).trans (ih _)

lemma written (s : Session σ τ ℓ) (pieces : List (Channel × Bytes)) :
    Unmoved s (pieces.foldl (fun s w => s.happen (.written w.1 w.2)) s) := by
  induction pieces generalizing s with
  | nil => exact refl s
  | cons w rest ih => exact (happen s _).trans (ih _)

/-- Programs that take part in an access to files change the launcher and the files only, beside the
history. -/
lemma takeAccess {α : Type} (s : Session σ τ ℓ) (r : AccessReport ℓ α) :
    Unmoved { s with launcher := r.launcher, files := r.files } (s.takeAccess r) :=
  written _ r.written

/-- Beside the history a call of the launcher changes the launcher and the files only. -/
lemma launch [Launcher ℓ] (s : Session σ τ ℓ) (args : ArgVector) :
    Unmoved { s with
      launcher := (Launcher.launch s.launcher s.files args).launcher
      files := (Launcher.launch s.launcher s.files args).files } (s.launch args).2 :=
  ((happen _ _).trans (noteAll _ _)).trans (written _ _)

end Unmoved

namespace Untouched

variable {s s' s'' : Session σ τ ℓ}

lemma refl (s : Session σ τ ℓ) : Untouched s s :=
  ⟨rfl, rfl, rfl⟩

lemma trans (h : Untouched s s') (h' : Untouched s' s'') : Untouched s s'' where
  launcher := h'.launcher.trans h.launcher
  files := h'.files.trans h.files
  verbosity := h'.verbosity.trans h.verbosity

lemma print [Sink σ] (s : Session σ τ ℓ) (bytes : Bytes) : Untouched s (s.print bytes).2 := by
  simp only [Session.print]
  split <;> exact ⟨rfl, rfl, rfl⟩

lemma offer [Sink σ] (s : Session σ τ ℓ) (bytes : Bytes) : Untouched s (s.offer bytes).2 := by
  simp only [Session.offer]
  split <;> exact ⟨rfl, rfl, rfl⟩

lemma flush [Sink σ] (s : Session σ τ ℓ) : Untouched s s.flush.2 :=
  ⟨rfl, rfl, rfl⟩

lemma report [Sink τ] (s : Session σ τ ℓ) (text : String) : Untouched s (s.report text) := by
  simp only [Session.report]
  split <;> exact ⟨rfl, rfl, rfl⟩

lemma flushBeforeLaunch [Sink σ] (s : Session σ τ ℓ) (name : String) :
    Untouched s (s.flushBeforeLaunch name) := by
  have hflush : Untouched s s.flush.2 := flush s
  rw [Session.flushBeforeLaunch]
  split
  · next heq => rwa [heq] at hflush
  · next heq =>
    rw [heq] at hflush
    exact hflush.trans (Unmoved.note _ _).toUntouched

end Untouched

/-- After a launch one record is made, or one diagnostic line is reported, or nothing happens. -/
lemma runProgram_cases [Sink σ] [Sink τ] [Launcher ℓ] (s : Session σ τ ℓ) (name : Bytes)
    (args : ArgVector) :
    let launched :=
      (((s.flushBeforeLaunch (Text.display name)).note (.launching args)).launch args).2
    s.runProgram name args = launched ∨
      (∃ outcome, s.runProgram name args = launched.note (.ended (Text.display name) outcome)) ∨
      ∃ e : ShellError, s.runProgram name args = launched.report e.message := by
  simp only [runProgram]
  rcases ((s.flushBeforeLaunch (Text.display name)).note (.launching args)).launch args with
    ⟨_ | e | outcome, s'⟩
  · exact Or.inl rfl
  · exact Or.inr (Or.inr ⟨e, rfl⟩)
  · exact Or.inr (Or.inl ⟨outcome, rfl⟩)

namespace Untouched

variable {s s' s'' : Session σ τ ℓ}

/-- Beside the streams and the history a launch changes the launcher and the files only. -/
lemma runProgram [Sink σ] [Sink τ] [Launcher ℓ] (s : Session σ τ ℓ) (name : Bytes)
    (args : ArgVector) :
    Untouched { s with
      launcher := (Launcher.launch s.launcher s.files args).launcher
      files := (Launcher.launch s.launcher s.files args).files } (s.runProgram name args) := by
  have hready : Untouched s ((s.flushBeforeLaunch (Text.display name)).note (.launching args)) :=
    (flushBeforeLaunch s _).trans (Unmoved.note _ _).toUntouched
  have hcases := s.runProgram_cases name args
  generalize (s.flushBeforeLaunch (Text.display name)).note (.launching args) = ready
    at hready hcases
  have hcalled := Unmoved.launch ready args
  rw [hready.launcher, hready.files] at hcalled
  have hlaunched : Untouched { s with
      launcher := (Launcher.launch s.launcher s.files args).launcher
      files := (Launcher.launch s.launcher s.files args).files } (ready.launch args).2 :=
    ⟨hcalled.launcher, hcalled.files, hcalled.verbosity.trans hready.verbosity⟩
  rcases hcases with heq | ⟨outcome, heq⟩ | ⟨e, heq⟩
  · rwa [heq]
  · rw [heq]
    exact hlaunched.trans (Unmoved.note _ _).toUntouched
  · rw [heq]
    exact hlaunched.trans (report _ _)

end Untouched

/-! ### Launches -/

/-- A record is an event or is not kept. -/
lemma exists_events_note (s : Session σ τ ℓ) (r : Record) :
    ∃ records : List Record, (s.note r).events = s.events ++ records.map Event.noted := by
  rw [note]
  split
  · exact ⟨[r], events_happen s _⟩
  · exact ⟨[], (List.append_nil _).symm⟩

section

variable [Sink σ]

/-- The flush before a launch is an event, and a record may tell of its failure. -/
lemma exists_events_flushBeforeLaunch (s : Session σ τ ℓ) (name : String) :
    ∃ (success : Bool) (records : List Record), (s.flushBeforeLaunch name).events =
      s.events ++ .flushed success :: records.map Event.noted := by
  have hflush : s.flush.2.events = s.events ++ [.flushed s.flush.1.isNone] := events_happen _ _
  rw [flushBeforeLaunch]
  split
  · next heq =>
    rw [heq] at hflush
    exact ⟨true, [], hflush⟩
  · next e s' heq =>
    rw [heq] at hflush
    obtain ⟨records, hnote⟩ := s'.exists_events_note (.flushFailed name e)
    exact ⟨false, records, by rw [hnote, hflush, List.append_assoc]; rfl⟩

variable [Sink τ] [Launcher ℓ]

/-- What happens when a program is launched: the flush, then records only, then the launch with all
arguments, and what comes of it, which is no other launch. -/
theorem exists_events_runProgram (s : Session σ τ ℓ) (name : Bytes) (args : ArgVector) :
    ∃ (success : Bool) (records : List Record) (later : List Event),
      (s.runProgram name args).events =
        s.events ++ .flushed success :: records.map Event.noted ++ .launched args :: later ∧
      ∀ e ∈ later, e.isLocal = true := by
  obtain ⟨success, records, hflush⟩ := s.exists_events_flushBeforeLaunch (Text.display name)
  obtain ⟨records', hnote⟩ :=
    (s.flushBeforeLaunch (Text.display name)).exists_events_note (.launching args)
  have hcases := s.runProgram_cases name args
  generalize (s.flushBeforeLaunch (Text.display name)).note (.launching args) = ready
    at hnote hcases
  generalize hreport : Launcher.launch ready.launcher ready.files args = report
  -- The session at the moment of the launch.
  set called : Session σ τ ℓ :=
    ({ ready with launcher := report.launcher, files := report.files }).happen (.launched args)
  have hlaunched : called.events = ready.events ++ [.launched args] := events_happen _ _
  have hafter : Adds Event.isLocal called (ready.launch args).2 := by
    simp only [launch, hreport]
    exact (Adds.noteAll fun _ _ => rfl).trans
      (Adds.written (fun _ _ => rfl) report.written)
  have hlater : Adds Event.isLocal called (s.runProgram name args) := by
    rcases hcases with heq | ⟨outcome, heq⟩ | ⟨e, heq⟩
    · rwa [heq]
    · exact heq ▸ hafter.trans (Adds.note rfl)
    · exact heq ▸ hafter.trans (Adds.report (fun _ => rfl) _)
  obtain ⟨later, hevents, hlocal⟩ := hlater
  refine ⟨success, records ++ records', later, ?_, hlocal⟩
  rw [hevents, hlaunched, hnote, hflush]
  simp

/-- A launch is one with all arguments. -/
lemma launches_runProgram (s : Session σ τ ℓ) (name : Bytes) (args : ArgVector) :
    (s.runProgram name args).launches = s.launches ++ [args] := by
  obtain ⟨success, records, later, hevents, hlocal⟩ := s.exists_events_runProgram name args
  have hlater : later.filterMap Event.launched? = [] :=
    List.filterMap_eq_nil_iff.mpr fun e he => Event.launched?_of_isLocal (hlocal e he)
  have hrecords : (records.map Event.noted).filterMap Event.launched? = [] := by
    simp [List.filterMap_map, Function.comp_def, Event.launched?]
  simp only [launches, hevents, List.filterMap_append, List.filterMap_cons, Event.launched?, hlater,
    hrecords, List.append_nil]

end

end Session

end CommandShell
