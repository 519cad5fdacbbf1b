import CommandShell.Proofs.Acts

/-!
# Two sessions side by side

The same is done in two sessions.  A relation between them is *parallel* if it makes sure that
everything but printing is answered the same in both, and if it is kept by that
(`Session.Parallel`); it is *fully parallel* if that is so of printing, too.  Single acts are all
there is to check for this, and few of them if the sessions differ in their histories only
(`Session.FullyParallel.of_abreast`).  What follows from them holds of every such relation: programs
are launched alike (`Session.Parallel.runProgram`), and commands executed
(`Session.FullyParallel.execute`).

Two runs can read different inputs, as long as what they read makes no difference to commands
(`Session.ReadsAlike`).  Then they end alike (`Session.FullyParallel.run`).
-/

namespace CommandShell

/-- Two results of reading a line that make no difference to commands. -/
inductive LineResult.Alike : LineResult → LineResult → Prop
  /-- Lines with the same arguments. -/
  | line {a b : Bytes} (h : ArgVector.ofLine a = ArgVector.ofLine b) :
      Alike (.line a) (.line b)
  /-- The end comes first. -/
  | ended : Alike .ended .ended
  /-- The same failure comes first. -/
  | failed (e : IoError) : Alike (.failed e) (.failed e)

/-- A result is like itself. -/
lemma LineResult.Alike.refl (r : LineResult) : Alike r r := by
  cases r with
  | line bytes => exact .line rfl
  | ended => exact .ended
  | failed e => exact .failed e

namespace Session

variable {β σ τ σ' τ' ℓ : Type} [Sink σ] [Sink τ] [Sink σ'] [Sink τ']

/-- A relation that every act but printing keeps, if it is done in both sessions.  The launchers and
the files are the same in both, and flushes are answered the same. -/
structure Parallel (R : Session σ τ ℓ → Session σ' τ' ℓ → Prop) : Prop where
  launcher : ∀ {s t}, R s t → s.launcher = t.launcher
  files : ∀ {s t}, R s t → s.files = t.files
  flush : ∀ {s t}, R s t → s.flush.1 = t.flush.1 ∧ R s.flush.2 t.flush.2
  report : ∀ {s t}, R s t → ∀ text, R (s.report text) (t.report text)
  note : ∀ {s t}, R s t → ∀ r, R (s.note r) (t.note r)
  /-- Something happens that is neither output nor a record. -/
  happen : ∀ {s t}, R s t → ∀ e, e.isAside = true → R (s.happen e) (t.happen e)
  /-- The launcher and the files become others. -/
  replace : ∀ {s t}, R s t → ∀ launcher files,
    R { s with launcher, files } { t with launcher, files }

/-- A relation that every act keeps, if it is done in both sessions.  Printing is answered the same,
too. -/
structure FullyParallel (R : Session σ τ ℓ → Session σ' τ' ℓ → Prop) : Prop extends Parallel R where
  print : ∀ {s t}, R s t → ∀ bytes,
    (s.print bytes).1 = (t.print bytes).1 ∧ R (s.print bytes).2 (t.print bytes).2
  offer : ∀ {s t}, R s t → ∀ bytes,
    (s.offer bytes).1 = (t.offer bytes).1 ∧ R (s.offer bytes).2 (t.offer bytes).2

/-- Two sessions have the same streams, the same launcher and the same files. -/
structure Abreast (s t : Session σ τ ℓ) : Prop where
  out : s.out = t.out
  err : s.err = t.err
  launcher : s.launcher = t.launcher
  files : s.files = t.files

/-- Sessions that have the same streams, launchers and files answer every act the same.  So it is
enough that a relation between them does not depend on these, and that it is kept by all that
happens and by records. -/
lemma FullyParallel.of_abreast {R : Session σ τ ℓ → Session σ τ ℓ → Prop}
    (abreast : ∀ {s t}, R s t → Abreast s t)
    (become : ∀ {s t}, R s t → ∀ out err launcher files,
      R { s with out, err, launcher, files } { t with out, err, launcher, files })
    (happen : ∀ {s t}, R s t → ∀ e, e.noted? = none → R (s.happen e) (t.happen e))
    (note : ∀ {s t}, R s t → ∀ r, R (s.note r) (t.note r)) : FullyParallel R := by
  have withOut {s t : Session σ τ ℓ} (h : R s t) (out : σ) : R { s with out } { t with out } := by
    simpa only [(abreast h).err, (abreast h).launcher, (abreast h).files] using
      become h out s.err s.launcher s.files
  have withErr {s t : Session σ τ ℓ} (h : R s t) (err : τ) : R { s with err } { t with err } := by
    simpa only [(abreast h).out, (abreast h).launcher, (abreast h).files] using
      become h s.out err s.launcher s.files
  refine ⟨⟨fun h => (abreast h).launcher, fun h => (abreast h).files, ?_, ?_, note, ?_, ?_⟩, ?_, ?_⟩
  · intro s t h
    simp only [Session.flush, (abreast h).out, true_and]
    exact happen (withOut h _) _ rfl
  · intro s t h text
    simp only [Session.report, (abreast h).err]
    split
    · exact withErr h _
    · exact happen (withErr h _) _ rfl
  · intro s t h e he
    exact happen h e (Event.noted?_of_isAside he)
  · intro s t h launcher files
    simpa only [(abreast h).out, (abreast h).err] using become h s.out s.err launcher files
  · intro s t h bytes
    simp only [Session.print, (abreast h).out, true_and]
    split
    · exact withOut h _
    · exact happen (withOut h _) _ rfl
  · intro s t h bytes
    simp only [Session.offer, (abreast h).out, true_and]
    split
    · exact withOut h _
    · exact happen (withOut h _) _ rfl

variable {R : Session σ τ ℓ → Session σ' τ' ℓ → Prop} {s : Session σ τ ℓ} {t : Session σ' τ' ℓ}

/-! ### Acts other than printing -/

namespace Parallel

variable (h : Parallel R) (hr : R s t)
include h hr

lemma noteAll (rs : List Record) : R (s.noteAll rs) (t.noteAll rs) := by
  induction rs generalizing s t with
  | nil => exact hr
  | cons r rs ih => exact ih (h.note hr r)

lemma afterReading (input : Input) : R (s.afterReading input) (t.afterReading input) :=
  h.noteAll (h.happen hr .asked rfl) _

lemma recording (args : ArgVector) : R (s.recording args) (t.recording args) :=
  h.note (h.noteAll hr _) _

/-- What programs write keeps the relation. -/
lemma written (pieces : List (Channel × Bytes)) :
    R (pieces.foldl (fun s w => s.happen (.written w.1 w.2)) s)
      (pieces.foldl (fun t w => t.happen (.written w.1 w.2)) t) := by
  induction pieces generalizing s t with
  | nil => exact hr
  | cons w rest ih => exact ih (h.happen hr _ rfl)

lemma takeAccess {α : Type} (r : AccessReport ℓ α) : R (s.takeAccess r) (t.takeAccess r) :=
  h.written (h.replace hr r.launcher r.files) r.written

lemma flushBeforeLaunch (name : String) :
    R (s.flushBeforeLaunch name) (t.flushBeforeLaunch name) := by
  obtain ⟨hanswer, hflushed⟩ := h.flush hr
  rw [Session.flushBeforeLaunch, Session.flushBeforeLaunch]
  generalize s.flush = x at hanswer hflushed ⊢
  generalize t.flush = y at hanswer hflushed ⊢
  obtain ⟨failure, s'⟩ := x
  obtain ⟨_, t'⟩ := y
  cases hanswer
  cases failure with
  | none => exact hflushed
  | some e => exact h.note hflushed _

variable [Launcher ℓ]

/-- The launcher answers the same in both sessions. -/
lemma launch (args : ArgVector) :
    (s.launch args).1 = (t.launch args).1 ∧ R (s.launch args).2 (t.launch args).2 := by
  simp only [Session.launch, h.launcher hr, h.files hr, true_and]
  generalize Launcher.launch t.launcher t.files args = r
  have hlaunched := h.happen (h.replace hr r.launcher r.files) (.launched args) rfl
  exact h.written (h.noteAll hlaunched r.records) r.written

lemma runProgram (name : Bytes) (args : ArgVector) :
    R (s.runProgram name args) (t.runProgram name args) := by
  have hready := h.note (h.flushBeforeLaunch hr (Text.display name)) (.launching args)
  obtain ⟨hresult, hcalled⟩ := h.launch hready args
  rw [Session.runProgram, Session.runProgram]
  generalize ((s.flushBeforeLaunch _).note _).launch args = x at hresult hcalled ⊢
  generalize ((t.flushBeforeLaunch _).note _).launch args = y at hresult hcalled ⊢
  obtain ⟨result, s'⟩ := x
  obtain ⟨_, t'⟩ := y
  cases hresult
  rcases result with _ | e | outcome
  · exact hcalled
  · exact h.report hcalled _
  · exact h.note hcalled _

end Parallel

/-! ### Commands -/

namespace FullyParallel

variable [Launcher ℓ] [HasHandler β] (h : FullyParallel R)
include h

/-- A handler comes to the same verdict in both sessions. -/
theorem handler (c : Handler) (hr : R s t) :
    (c.run s).1 = (c.run t).1 ∧ R (c.run s).2 (c.run t).2 := by
  -- The answer to each act is the same, so what the handler does next is the same, too.
  induction c generalizing s t with
  | done v => exact ⟨rfl, hr⟩
  | print bytes next ih =>
    obtain ⟨hanswer, hprinted⟩ := h.print hr bytes
    simp only [Handler.run_print, hanswer]
    exact ih _ hprinted
  | offer bytes next ih =>
    obtain ⟨hanswer, hoffered⟩ := h.offer hr bytes
    simp only [Handler.run_offer, hanswer]
    exact ih _ hoffered
  | flush next ih =>
    obtain ⟨hanswer, hflushed⟩ := h.flush hr
    simp only [Handler.run_flush, hanswer]
    exact ih _ hflushed
  | read path next ih =>
    have hread := h.takeAccess hr (Launcher.readFile t.launcher t.files path)
    simp only [Handler.run_read, readFile, h.launcher hr, h.files hr]
    cases (Launcher.readFile t.launcher t.files path).result with
    | none => exact ⟨rfl, hread⟩
    | some answer => exact ih answer hread
  | append path next ih =>
    have happened := h.takeAccess hr (Launcher.appendTo t.launcher t.files path)
    simp only [Handler.run_append, appendTo, h.launcher hr, h.files hr]
    cases (Launcher.appendTo t.launcher t.files path).result with
    | none => exact ⟨rfl, happened⟩
    | some answer => exact ih answer happened
  | change f next ih =>
    simp only [Handler.run_change, changeFiles, h.files hr]
    have hreplaced := h.replace hr s.launcher (f t.files)
    rw [h.launcher hr] at hreplaced
    refine ih _ ?_
    simpa only [h.launcher hr] using hreplaced

variable (hr : R s t)
include hr

omit [HasHandler β] [Launcher ℓ] in
lemma printTexts (texts : List String) :
    (s.printTexts texts).1 = (t.printTexts texts).1 ∧
      R (s.printTexts texts).2 (t.printTexts texts).2 := by
  induction texts generalizing s t with
  | nil => exact ⟨rfl, hr⟩
  | cons text rest ih =>
    obtain ⟨hanswer, hprinted⟩ := h.print hr (utf8 text)
    rw [Session.printTexts, Session.printTexts]
    generalize s.print (utf8 text) = x at hanswer hprinted ⊢
    generalize t.print (utf8 text) = y at hanswer hprinted ⊢
    obtain ⟨failure, s'⟩ := x
    obtain ⟨_, t'⟩ := y
    cases hanswer
    cases failure with
    | none => exact ih hprinted
    | some e => exact ⟨rfl, hprinted⟩

omit [HasHandler β] [Launcher ℓ] in
lemma prompt (wanted : Bool) :
    (s.prompt wanted).1 = (t.prompt wanted).1 ∧ R (s.prompt wanted).2 (t.prompt wanted).2 := by
  have hdirectory : s.printDirectory.1 = t.printDirectory.1 ∧
      R s.printDirectory.2 t.printDirectory.2 := by
    rw [printDirectory, printDirectory, h.files hr]
    cases t.files.currentDirectory? with
    | none => exact ⟨rfl, hr⟩
    | some directory => exact h.printTexts hr _
  obtain ⟨hanswer, hprinted⟩ := hdirectory
  rw [Session.prompt, Session.prompt]
  generalize s.printDirectory = x at hanswer hprinted ⊢
  generalize t.printDirectory = y at hanswer hprinted ⊢
  obtain ⟨failure, s'⟩ := x
  obtain ⟨_, t'⟩ := y
  cases hanswer
  cases wanted with
  | false => exact ⟨rfl, hr⟩
  | true =>
    cases failure with
    | none => exact h.flush hprinted
    | some e => exact ⟨rfl, hprinted⟩

lemma runBuiltin (b : β) (args : ArgVector) :
    (s.runBuiltin b args).1 = (t.runBuiltin b args).1 ∧
      R (s.runBuiltin b args).2 (t.runBuiltin b args).2 := by
  obtain ⟨hverdict, hdone⟩ := h.handler (HasHandler.handler b args) hr
  rw [Session.runBuiltin, Session.runBuiltin]
  generalize (HasHandler.handler b args).run s = x at hverdict hdone ⊢
  generalize (HasHandler.handler b args).run t = y at hverdict hdone ⊢
  obtain ⟨verdict, s'⟩ := x
  obtain ⟨_, t'⟩ := y
  cases hverdict
  cases verdict with
  | ok status => exact ⟨rfl, hdone⟩
  | error f => exact ⟨rfl, h.report hdone _⟩

/-- A command has the same status in both sessions. -/
theorem execute (table : Table β) (args : ArgVector) :
    (s.execute table args).1 = (t.execute table args).1 ∧
      R (s.execute table args).2 (t.execute table args).2 := by
  rw [Session.execute, Session.execute]
  cases args.command? with
  | none => exact ⟨rfl, hr⟩
  | some name =>
    simp only
    cases table.builtin? name with
    | none => exact ⟨rfl, h.runProgram hr name args⟩
    | some b => exact h.runBuiltin (h.note hr _) b args

/-- Lines with the same arguments come to the same in both sessions. -/
lemma executeLine (table : Table β) {a b : Bytes}
    (hargs : ArgVector.ofLine a = ArgVector.ofLine b) :
    (s.executeLine table a).1 = (t.executeLine table b).1 ∧
      R (s.executeLine table a).2 (t.executeLine table b).2 := by
  rw [Session.executeLine, Session.executeLine, hargs]
  exact h.execute (h.recording hr _) table _

end FullyParallel

/-! ### Runs -/

/-- A relation between inputs under which reading a line makes no difference to commands, and keeps
it and the relation between sessions. -/
structure ReadsAlike (R : Session σ τ ℓ → Session σ' τ' ℓ → Prop) (I : Input → Input → Prop) :
    Prop where
  result : ∀ {i j}, I i j → LineResult.Alike i.readLine.result j.readLine.result
  input : ∀ {i j}, I i j → I i.readLine.input j.readLine.input
  session : ∀ {i j}, I i j → ∀ {s t}, R s t → R (s.afterReading i) (t.afterReading j)

/-- An input is read like itself. -/
lemma Parallel.readsAlike_eq (h : Parallel R) : ReadsAlike R Eq where
  result hij := hij ▸ .refl _
  input hij := hij ▸ rfl
  session hij := hij ▸ fun hr => h.afterReading hr _

/-- Two runs have the same result, and what they leave is related. -/
structure EndsAlike (R : Session σ τ ℓ → Session σ' τ' ℓ → Prop) (I : Input → Input → Prop)
    (r : Run σ τ ℓ) (r' : Run σ' τ' ℓ) : Prop where
  failure : r.failure = r'.failure
  input : I r.input r'.input
  session : R r.session r'.session

namespace FullyParallel

variable [Launcher ℓ] [HasHandler β] {I : Input → Input → Prop} (h : FullyParallel R)
include h

/-- Turns that read lines with the same arguments are the last ones, or else it counts how the next
ones end. -/
lemma endsAlike_of_line {table : Table β} {prompting : Bool} {i j : Input} {s' : Session σ τ ℓ}
    {t' : Session σ' τ' ℓ} {a b : Bytes} (hs : s.prompt prompting = (none, s'))
    (ht : t.prompt prompting = (none, t')) (hx : i.readLine.result = .line a)
    (hy : j.readLine.result = .line b) (hargs : ArgVector.ofLine a = ArgVector.ofLine b)
    (hinput : I i.readLine.input j.readLine.input)
    (hsession : R (s'.afterReading i) (t'.afterReading j))
    (hnext : ∀ {s t}, R s t → EndsAlike R I (s.run table prompting i.readLine.input)
      (t.run table prompting j.readLine.input)) :
    EndsAlike R I (s.run table prompting i) (t.run table prompting j) := by
  rw [run_of_readLine_eq_line hs hx, run_of_readLine_eq_line ht hy]
  obtain ⟨hstatus, hexecuted⟩ := h.executeLine hsession table hargs
  generalize (s'.afterReading i).executeLine table a = x at hstatus hexecuted ⊢
  generalize (t'.afterReading j).executeLine table b = y at hstatus hexecuted ⊢
  obtain ⟨status, after⟩ := x
  obtain ⟨_, after'⟩ := y
  cases hstatus
  obtain ⟨hanswer, hflushed⟩ := h.flush hexecuted
  have hlauncher : after.launcher = after'.launcher := h.launcher hexecuted
  simp only [hlauncher]
  generalize after.flush = x at hanswer hflushed ⊢
  generalize after'.flush = y at hanswer hflushed ⊢
  obtain ⟨failure, s''⟩ := x
  obtain ⟨_, t''⟩ := y
  cases hanswer
  split
  · exact ⟨rfl, hinput, hexecuted⟩
  · cases failure with
    | some e => exact ⟨rfl, hinput, hflushed⟩
    | none =>
      cases status with
      | stop => exact ⟨rfl, hinput, h.note hflushed _⟩
      | proceed => exact hnext hflushed

/-- Runs in related sessions, whose inputs make no difference to commands, end alike. -/
theorem run (hread : ReadsAlike R I) (table : Table β) (prompting : Bool) {i j : Input}
    (hi : I i j) (hr : R s t) :
    EndsAlike R I (s.run table prompting i) (t.run table prompting j) := by
  -- Each turn leaves less of the first input.
  induction hn : i.remaining using Nat.strongRecOn generalizing i j s t with
  | _ n ih =>
    obtain ⟨hanswer, hprompted⟩ := h.prompt hr prompting
    cases hs : s.prompt prompting with | mk failure s' =>
    cases ht : t.prompt prompting with | mk failure' t' =>
    rw [hs, ht] at hanswer hprompted
    obtain rfl : failure = failure' := hanswer
    cases failure with
    | some e =>
      rw [run_of_prompt_eq_some hs, run_of_prompt_eq_some ht]
      exact ⟨rfl, hi, hprompted⟩
    | none =>
      have hresult := hread.result hi
      have hinput := hread.input hi
      have hsession := hread.session hi hprompted
      generalize hx : i.readLine.result = x at hresult
      generalize hy : j.readLine.result = y at hresult
      cases hresult with
      | failed e =>
        rw [run_of_readLine_eq_failed hs hx, run_of_readLine_eq_failed ht hy]
        exact ⟨rfl, hinput, hsession⟩
      | ended =>
        rw [run_of_readLine_eq_ended hs hx, run_of_readLine_eq_ended ht hy]
        exact ⟨rfl, hinput, h.note hsession _⟩
      | line hargs =>
        refine h.endsAlike_of_line hs ht hx hy hargs hinput hsession fun hr => ?_
        exact ih _ (hn ▸ LineRead.remaining_readLine_lt hx) hinput hr rfl

end FullyParallel

end Session

end CommandShell
