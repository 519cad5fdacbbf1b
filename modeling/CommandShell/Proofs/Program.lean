import CommandShell.Proofs.Blocks
import CommandShell.Proofs.Executions
import CommandShell.Proofs.Forms
import CommandShell.Proofs.Launches
import Mathlib

/-!
# How the program ends

The program exits with one of two statuses, unless a program that it runs ends it with a signal, or
something that it does never returns: the launched program does not end or has stopped the
interpreter, or a file cannot be opened or read to its end.  Arguments that are no texts, that ask
for help or that are refused decide the rest, and then nothing is read and nothing is run.
Otherwise the status is that of the loop, and a failure of the loop is the only thing that the
interpreter ever records as an error (`ProgramRun.ofArguments_exits`).

What comes of the commands has no part in this.  Where the streams accept everything, only an input
that cannot be read breaks a turn down, so on any other input the loop does not fail
(`Session.run_failure_of_accepts`).  All records of the interpreter and of an attempt to launch a
process are of less important levels than errors, so no act of a run adds an error
(`Session.kept_calm`).  If everything returns that a launcher does, the interpreter is there at the
end of the run (`Session.departure?_run`).

That a signal ends the interpreter or stops it does happen: a shell can be told to send one to the
process that has launched it (`ProgramRun.ofArguments_departs`).
-/

namespace CommandShell

/-! ### Records of errors -/

/-- Errors are kept unless nothing is. -/
lemma Verbosity.admits_error_iff {v : Verbosity} : v.admits .error = true ↔ v ≠ .off := by
  obtain ⟨limit | limit⟩ := v
  · exact ⟨fun h => absurd h Bool.false_ne_true, fun h => absurd rfl h⟩
  · cases limit <;> decide

namespace Event

/-- Whether an event is anything but the record of an error. -/
def isCalm (e : Event) : Bool :=
  e.noted?.all fun r => r.level ≠ .error

lemma isCalm_noted {r : Record} (h : r.level ≠ .error) : (noted r).isCalm = true :=
  decide_eq_true h

lemma isCalm_of_isAside {e : Event} (h : e.isAside = true) : e.isCalm = true := by
  rw [isCalm, noted?_of_isAside h, Option.all_none]

end Event

/-- Waiting for a process makes no error. -/
lemma Waited.level_of_mem_records {pid : Nat} {answers : List WaitAnswer} {r : Record}
    (h : r ∈ (ofAnswers pid answers).records) : r.level ≠ .error := by
  induction answers with
  | nil => cases h
  | cons answer rest ih =>
    rw [ofAnswers] at h
    split at h
    · cases h
    · rcases List.mem_cons.mp h with rfl | h
      · exact Level.noConfusion
      · exact ih h
    · exact ih h

/-- Neither does launching one, whatever the system answers. -/
lemma Attempt.level_of_mem_records {args : ArgVector} {answers : ArgBlock → KernelAnswers}
    {r : Record} (h : r ∈ (ofAnswers args answers).records) : r.level ≠ .error := by
  rw [ofAnswers] at h
  split at h
  · cases h
  · split at h
    · cases h
    · rcases List.mem_cons.mp h with rfl | h
      · exact Level.noConfusion
      · exact Waited.level_of_mem_records h

/-- A launcher records what attempts to launch processes record, whatever the system answers to
them. -/
def RecordsAttempts (ℓ : Type) [Launcher ℓ] : Prop :=
  ∀ (l : ℓ) (files : FileSystem) (args : ArgVector), ∃ answers,
    (Launcher.launch l files args).records = (Attempt.ofAnswers args answers).records

/-- The launcher of the program makes such attempts. -/
lemma Machine.recordsAttempts : RecordsAttempts Machine := by
  intro m files args
  change ∃ answers, (m.launch files args).records = _
  rw [Machine.launch]
  split
  · next e heq => exact ⟨fun _ => ⟨.error .noChild, []⟩, by rw [Attempt.ofAnswers, heq]⟩
  · next block heq => exact ⟨_, rfl⟩

/-- A launcher with prepared answers records nothing, as if no process could be made. -/
lemma ScriptedLauncher.recordsAttempts : RecordsAttempts ScriptedLauncher := by
  intro l files args
  refine ⟨fun _ => ⟨.error .noChild, []⟩, ?_⟩
  have hnone : (Attempt.ofAnswers args fun _ => ⟨.error .noChild, []⟩).records = [] := by
    rw [Attempt.ofAnswers]
    split <;> rfl
  rw [hnone]
  change (l.launch files args).records = []
  rw [ScriptedLauncher.launch]
  split <;> rfl

/-! ### Launchers with which everything returns -/

/-- As long as a launcher has a property, every launch returns, and so does every access to a file;
and the launcher keeps the property. -/
structure Returns {ℓ : Type} [Launcher ℓ] (P : ℓ → Prop) : Prop where
  launch : ∀ l files args, P l → (Launcher.launch l files args).result ≠ none ∧
    P (Launcher.launch l files args).launcher
  readFile : ∀ l files path, P l → (Launcher.readFile l files path).result ≠ none ∧
    P (Launcher.readFile l files path).launcher
  appendTo : ∀ l files path, P l → (Launcher.appendTo l files path).result ≠ none ∧
    P (Launcher.appendTo l files path).launcher

/-- The launcher has a property, and the interpreter has not departed. -/
def GoesOn {ℓ : Type} [Launcher ℓ] (P : ℓ → Prop) (l : ℓ) : Prop :=
  P l ∧ Launcher.departure? l = none

namespace Returns

variable {ℓ : Type} [Launcher ℓ] {P : ℓ → Prop} (h : Returns P) {l : ℓ} (hl : GoesOn P l)
include h hl

lemma goesOn_launch (files : FileSystem) (args : ArgVector) :
    GoesOn P (Launcher.launch l files args).launcher := by
  obtain ⟨hresult, hP⟩ := h.launch l files args hl.1
  exact ⟨hP, not_not.mp fun hgone =>
    hresult ((Launcher.returns_launch l files args hl.2).mpr hgone)⟩

lemma goesOn_readFile (files : FileSystem) (path : Bytes) :
    GoesOn P (Launcher.readFile l files path).launcher := by
  obtain ⟨hresult, hP⟩ := h.readFile l files path hl.1
  exact ⟨hP, not_not.mp fun hgone =>
    hresult ((Launcher.returns_readFile l files path hl.2).mpr hgone)⟩

lemma goesOn_appendTo (files : FileSystem) (path : Bytes) :
    GoesOn P (Launcher.appendTo l files path).launcher := by
  obtain ⟨hresult, hP⟩ := h.appendTo l files path hl.1
  exact ⟨hP, not_not.mp fun hgone =>
    hresult ((Launcher.returns_appendTo l files path hl.2).mpr hgone)⟩

end Returns

namespace Session

variable {β σ τ ℓ : Type}

/-- The errors among the records, in order. -/
def errors (s : Session σ τ ℓ) : List Record :=
  s.records.filter fun r => r.level = .error

lemma errors_eq_filterMap (s : Session σ τ ℓ) :
    s.errors = s.events.filterMap fun e => e.noted?.filter fun r => r.level = .error :=
  List.filter_filterMap

/-- The record of an error is kept unless nothing is. -/
lemma errors_note (s : Session σ τ ℓ) {r : Record} (hr : r.level = .error) :
    (s.note r).errors = s.errors ++ if s.verbosity = .off then [] else [r] := by
  rw [note, hr]
  by_cases hoff : s.verbosity = .off
  · rw [if_neg fun hadmits => Verbosity.admits_error_iff.mp hadmits hoff, if_pos hoff,
      List.append_nil]
  · rw [if_pos (Verbosity.admits_error_iff.mpr hoff), if_neg hoff, errors_eq_filterMap,
      errors_eq_filterMap, events_happen, List.filterMap_append]
    simp [Event.noted?, Option.filter, hr]

/-- What has happened is no error, and which records are kept is the same. -/
structure Calm (s s' : Session σ τ ℓ) : Prop where
  verbosity : s'.verbosity = s.verbosity
  adds : Adds Event.isCalm s s'

/-- What was calm has added no error. -/
lemma Calm.errors_eq {s s' : Session σ τ ℓ} (h : Calm s s') : s'.errors = s.errors := by
  rw [errors_eq_filterMap, errors_eq_filterMap]
  refine h.adds.filterMap_events fun e he => ?_
  cases hnoted : e.noted? with
  | none => rfl
  | some r => simpa [Event.isCalm, hnoted, Option.filter] using he

variable [Sink σ] [Sink τ] [Launcher ℓ]

/-- No act is an error. -/
lemma kept_calm (hrecords : RecordsAttempts ℓ) :
    Kept (Calm : Session σ τ ℓ → Session σ τ ℓ → Prop) where
  refl s := ⟨rfl, .refl s⟩
  trans h h' := ⟨h'.verbosity.trans h.verbosity, h.adds.trans h'.adds⟩
  print s bytes := ⟨(Untouched.print s bytes).verbosity, .print (fun _ => rfl) bytes⟩
  offer s bytes := ⟨(Untouched.offer s bytes).verbosity, .offer (fun _ => rfl) bytes⟩
  flush s := ⟨(Untouched.flush s).verbosity, .flush fun _ => rfl⟩
  asked _ := ⟨rfl, .happen rfl⟩
  report s text := ⟨(Untouched.report s text).verbosity, .report (fun _ => rfl) text⟩
  happen _ _ he := ⟨rfl, .happen (Event.isCalm_of_isAside he)⟩
  note s r hr := ⟨(Unmoved.note s r).verbosity, .note (Event.isCalm_noted hr)⟩
  launch s args := by
    refine ⟨(Unmoved.launch s args).verbosity,
      .launch (fun _ => rfl) (fun _ _ => rfl) fun r hr => Event.isCalm_noted ?_⟩
    obtain ⟨answers, hanswers⟩ := hrecords s.launcher s.files args
    exact Attempt.level_of_mem_records (hanswers ▸ hr)
  replace _ _ _ := ⟨rfl, .of_history_eq rfl⟩

variable [HasHandler β] {table : Table β} {prompting : Bool} {input : Input}

/-! ### Runs that fail, and runs that do not -/

/-- Where the streams accept everything and the input can be read, no run fails, whatever the
commands do. -/
theorem run_failure_of_accepts {s : Session σ τ ℓ} (h : s.Accepts)
    (hreadable : (Supply.ofArrivals input.arrivals).failure = none) :
    (s.run table prompting input).failure = none := by
  revert h hreadable
  refine run_induction table prompting (motive := fun i s r => s.Accepts →
    (Supply.ofArrivals i.arrivals).failure = none → r.failure = none) ?_ ?_ ?_ input s
  · intro i s e j t hbreak h hreadable
    obtain ⟨s', -, unread, -, -⟩ := hbreak.of_accepts h
    have hnone : ∀ line, i.readLine.result ≠ .line line := fun line hline => by
      rw [unread] at hline
      cases hline
    obtain ⟨-, -, hended⟩ := Input.supply_of_result_ne_line hnone
    rw [hreadable, unread] at hended
    cases hended
  · intro i s j t hfinish h hreadable
    rfl
  · rintro i s j t ⟨prompted, read, executed, alive, flushed⟩ ih h hreadable
    obtain ⟨-, -, hfailure, -⟩ := Input.supply_of_result_eq_line read
    obtain ⟨-, -, -, haccepts, -⟩ := seen_of_turn h prompted executed flushed
    exact ih haccepts (hfailure ▸ hreadable)

/-- A turn that breaks down leaves the interpreter where it is. -/
lemma Breakdown.departure?_eq_none {s t : Session σ τ ℓ} {i j : Input} {e : IoError}
    (h : Breakdown table prompting i s e j t) (halive : Launcher.departure? s.launcher = none) :
    Launcher.departure? t.launcher = none := by
  have haround : KeptAround (Untouched : Session σ τ ℓ → Session σ τ ℓ → Prop) :=
    keptAround_untouched
  cases h with
  | promptWrite wanted unwritten =>
    rwa [(haround.of_prompt_eq (prompt_of_unwritten wanted unwritten)).launcher]
  | promptFlush wanted written unflushed =>
    rwa [(haround.of_prompt_eq (prompt_of_unflushed wanted written unflushed)).launcher]
  | read prompted unread =>
    rwa [(haround.afterReading _ i).launcher, (haround.of_prompt_eq prompted).launcher]
  | commandFlush prompted read executed alive unflushed =>
    rwa [(haround.of_flush_eq unflushed).launcher]

/-- In a run that fails the interpreter has not departed. -/
lemma departure?_of_run_failure {s : Session σ τ ℓ} (halive : Launcher.departure? s.launcher = none)
    (hfailure : (s.run table prompting input).failure ≠ none) :
    Launcher.departure? (s.run table prompting input).session.launcher = none := by
  revert halive hfailure
  refine run_induction table prompting (motive := fun _ s r =>
    Launcher.departure? s.launcher = none → r.failure ≠ none →
      Launcher.departure? r.session.launcher = none) ?_ ?_ ?_ input s
  · intro i s e j t hbreak halive _
    exact hbreak.departure?_eq_none halive
  · intro i s j t hfinish _ hfailure
    exact absurd rfl hfailure
  · rintro i s j t ⟨prompted, read, executed, alive, flushed⟩ ih _ hfailure
    refine ih ?_ hfailure
    rwa [(keptAround_untouched.of_flush_eq flushed).launcher]

/-! ### Runs in which everything returns -/

variable {P : ℓ → Prop}

omit [Sink τ] [HasHandler β] in
/-- What a handler does returns, so the interpreter goes on. -/
lemma goesOn_handler (hreturns : Returns P) (c : Handler) (s : Session σ τ ℓ) :
    GoesOn P s.launcher → GoesOn P (c.run s).2.launcher := by
  refine Handler.run_rel
    (R := fun s s' : Session σ τ ℓ => GoesOn P s.launcher → GoesOn P s'.launcher)
    (fun _ => id) (fun h h' => h' ∘ h) ?_ ?_ ?_ ?_ ?_ (fun _ _ => id) c s
  · intro s bytes hs
    rwa [(Untouched.print s bytes).launcher]
  · intro s bytes hs
    rwa [(Untouched.offer s bytes).launcher]
  · exact fun _ => id
  · intro s path hs
    rw [readFile, (Unmoved.takeAccess s _).launcher]
    exact hreturns.goesOn_readFile hs s.files path
  · intro s path hs
    rw [appendTo, (Unmoved.takeAccess s _).launcher]
    exact hreturns.goesOn_appendTo hs s.files path

/-- After a line everything has returned. -/
lemma goesOn_executeLine (hreturns : Returns P) (table : Table β) (line : Bytes)
    {s : Session σ τ ℓ} (hs : GoesOn P s.launcher) :
    GoesOn P (s.executeLine table line).2.launcher := by
  have hready : Untouched s (s.recording (.ofLine line)) :=
    keptAround_untouched.recording s (.ofLine line)
  change GoesOn P ((s.recording (.ofLine line)).execute table (.ofLine line)).2.launcher
  rw [← hready.launcher] at hs
  generalize s.recording (.ofLine line) = ready at hs ⊢
  rw [execute]
  cases (ArgVector.ofLine line).command? with
  | none => exact hs
  | some name =>
    simp only
    cases table.builtin? name with
    | none =>
      simp only
      rw [(Untouched.runProgram ready name _).launcher]
      exact hreturns.goesOn_launch hs ready.files _
    | some b =>
      have hnoted : Untouched ready (ready.note (.builtin (Text.display name))) :=
        (Unmoved.note ready _).toUntouched
      have hdone := goesOn_handler hreturns (HasHandler.handler b (.ofLine line))
        (ready.note (.builtin (Text.display name))) (hnoted.launcher ▸ hs)
      simp only [runBuiltin]
      split
      · next heq => rwa [heq] at hdone
      · next heq =>
        rw [heq] at hdone
        rwa [(Untouched.report _ _).launcher]

/-- Where everything returns, the interpreter is there at the end of a run. -/
lemma departure?_run (hreturns : Returns P) {s : Session σ τ ℓ} (hs : GoesOn P s.launcher) :
    Launcher.departure? (s.run table prompting input).session.launcher = none := by
  have haround : KeptAround (Untouched : Session σ τ ℓ → Session σ τ ℓ → Prop) :=
    keptAround_untouched
  have hready : ∀ (i : Input) {s s' : Session σ τ ℓ}, GoesOn P s.launcher →
      s.prompt prompting = (none, s') → GoesOn P (s'.afterReading i).launcher :=
    fun i s s' hs prompted => by
      rwa [(haround.afterReading s' i).launcher, (haround.of_prompt_eq prompted).launcher]
  have hexecuted : ∀ (i : Input) {s s' after : Session σ τ ℓ} {line : Bytes} {status : Status},
      GoesOn P s.launcher → s.prompt prompting = (none, s') →
      (s'.afterReading i).executeLine table line = (status, after) → GoesOn P after.launcher :=
    fun i s s' after line status hs prompted executed => by
      have hdone := goesOn_executeLine hreturns table line (hready i hs prompted)
      rwa [executed] at hdone
  revert hs
  refine run_induction table prompting (motive := fun _ s r => GoesOn P s.launcher →
    Launcher.departure? r.session.launcher = none) ?_ ?_ ?_ input s
  · intro i s e j t hbreak hs
    exact hbreak.departure?_eq_none hs.2
  · intro i s j t hfinish hs
    cases hfinish with
    | ended prompted ended =>
      rw [(Unmoved.note _ _).launcher]
      exact (hready i hs prompted).2
    | stopped prompted read executed alive flushed =>
      rwa [(Unmoved.note _ _).launcher, (haround.of_flush_eq flushed).launcher]
    | departed prompted read executed dead => exact (hexecuted i hs prompted executed).2
  · rintro i s j t ⟨prompted, read, executed, alive, flushed⟩ ih hs
    refine ih ?_
    rw [(haround.of_flush_eq flushed).launcher]
    exact hexecuted i hs prompted executed

end Session

namespace Session

variable {β σ τ ℓ : Type} [Sink σ] [Sink τ] [Launcher ℓ] [HasHandler β]

/-- A line without the name of a builtin command leaves the launcher as the launch does. -/
lemma launcher_executeLine {table : Table β} {line : Bytes} (s : Session σ τ ℓ)
    (h : table.isExternal (.ofLine line) = true) :
    (s.executeLine table line).2.launcher =
      (Launcher.launch s.launcher s.files (.ofLine line)).launcher := by
  obtain ⟨name, hname, hbuiltin⟩ := (table.isExternal_iff _).mp h
  have hready : Untouched s (s.recording (.ofLine line)) :=
    keptAround_untouched.recording s (.ofLine line)
  change ((s.recording (.ofLine line)).execute table (.ofLine line)).2.launcher = _
  rw [execute, hname]
  simp only [hbuiltin]
  rw [(Untouched.runProgram _ _ _).launcher, hready.launcher, hready.files]

/-- Nothing happens after the interpreter has departed. -/
lemma departure?_run_of_line {table : Table β} {prompting : Bool} {input : Input} {line : Bytes}
    {departure : Departure} {s s' : Session σ τ ℓ} (prompted : s.prompt prompting = (none, s'))
    (read : input.readLine.result = .line line)
    (dead : Launcher.departure? ((s'.afterReading input).executeLine table line).2.launcher =
      some departure) :
    Launcher.departure? (s.run table prompting input).session.launcher = some departure := by
  cases executed : (s'.afterReading input).executeLine table line with
  | mk status after =>
    rw [executed] at dead
    rw [(Finish.departed prompted read executed dead).run_eq]
    exact dead

end Session

/-! ### From the loop to the program -/

namespace Run

variable {σ τ ℓ : Type} [Launcher ℓ]

/-- How the program ends after a run of the loop, if it does. -/
def ending? (r : Run σ τ ℓ) : Option Ending :=
  match Launcher.departure? r.session.launcher, r.failure with
  | some (.killed signal), _ => some (.killed signal)
  | some .stuck, _ => none
  | none, none => some (.exited 0)
  | none, some _ => some (.exited 1)

/-- The session after a run of the loop, with the record of its failure. -/
def closing (r : Run σ τ ℓ) : Session σ τ ℓ :=
  match Launcher.departure? r.session.launcher, r.failure with
  | none, some e => r.session.note (ProgramRun.failureRecord e)
  | _, _ => r.session

variable {r : Run σ τ ℓ}

lemma ending?_eq_exited_zero_iff : r.ending? = some (.exited 0) ↔
    r.failure = none ∧ Launcher.departure? r.session.launcher = none := by
  rw [ending?]
  split <;> simp_all

lemma ending?_eq_killed_iff {signal : Nat} : r.ending? = some (.killed signal) ↔
    Launcher.departure? r.session.launcher = some (.killed signal) := by
  rw [ending?]
  split <;> simp_all

lemma ending?_eq_none_iff :
    r.ending? = none ↔ Launcher.departure? r.session.launcher = some .stuck := by
  rw [ending?]
  split <;> simp_all

/-- An exit is with one of two statuses. -/
lemma eq_zero_or_one_of_ending?_eq_exited {status : Nat} (h : r.ending? = some (.exited status)) :
    status = 0 ∨ status = 1 := by
  rw [ending?] at h
  split at h <;> simp_all

/-- Only the failure of the loop is an error. -/
lemma errors_closing (herrors : r.session.errors = [])
    (halive : r.failure ≠ none → Launcher.departure? r.session.launcher = none) :
    r.closing.errors = match r.failure with
      | none => []
      | some e => if r.session.verbosity = .off then [] else [ProgramRun.failureRecord e] := by
  rw [closing]
  cases hfailure : r.failure with
  | none => cases Launcher.departure? r.session.launcher <;> exact herrors
  | some e =>
    rw [halive (hfailure ▸ Option.some_ne_none e)]
    simp only
    rw [Session.errors_note _ rfl, herrors, List.nil_append]

end Run

namespace ProgramRun

open Sink (AcceptsAll)

/-- The arguments are the forms of texts, and these amount to a request. -/
def Asks (arguments : List Bytes) (request : Request Config) : Prop :=
  ∃ ts : List String, arguments = ts.map utf8 ∧ Config.ofArguments ts = request

variable {arguments : List Bytes}

lemma asks_of_texts {ts : List String} (h : texts arguments = .ok ts) {request : Request Config} :
    Asks arguments request ↔ Config.ofArguments ts = request := by
  constructor
  · rintro ⟨ts', hforms, hrequest⟩
    rw [texts_eq_ok_iff.mpr hforms] at h
    cases h
    exact hrequest
  · exact fun hrequest => ⟨ts, texts_eq_ok_iff.mp h, hrequest⟩

/-- No arguments amount to two requests. -/
lemma Asks.unique {request request' : Request Config} (h : Asks arguments request)
    (h' : Asks arguments request') : request' = request := by
  obtain ⟨ts, hforms, rfl⟩ := h
  exact ((asks_of_texts (texts_eq_ok_iff.mpr hforms)).mp h').symm

lemma Asks.exists_run_iff {config : Config} (h : Asks arguments (.run config))
    {P : Config → Prop} : (∃ config', Asks arguments (.run config') ∧ P config') ↔ P config := by
  refine ⟨fun ⟨config', h', hP⟩ => ?_, fun hP => ⟨config, h, hP⟩⟩
  obtain rfl := Request.run.inj (h.unique h')
  exact hP

/-- Arguments that are no configuration decide all but the files, and these stay as they are. -/
lemma exists_ofArguments_eq (h : ¬ ∃ config, Asks arguments (.run config)) :
    ∃ ending output diagnostics, (ending = .exited 0 ∨ ending = .exited 1) ∧
      (ending = .exited 0 ↔ Asks arguments .help) ∧
      ∀ {σ ℓ : Type} [Sink σ] [Launcher ℓ] (out : σ) (launcher : ℓ) (files : FileSystem)
        (input : Input), ofArguments arguments out launcher files input =
          ⟨some ending, output, diagnostics, files⟩ := by
  cases htexts : texts arguments with
  | error shown =>
    refine ⟨.exited 1, [], utf8 ("Invalid utf8: " ++ shown ++ "\n"), Or.inr rfl, ⟨nofun, ?_⟩, ?_⟩
    · rintro ⟨ts, hforms, -⟩
      rw [texts_eq_ok_iff.mpr hforms] at htexts
      cases htexts
    · intro σ ℓ _ _ out launcher files input
      rw [ofArguments, htexts]
  | ok ts =>
    simp only [asks_of_texts htexts] at h ⊢
    cases hrequest : Config.ofArguments ts with
    | run config => exact absurd ⟨config, hrequest⟩ h
    | help =>
      refine ⟨.exited 0, utf8 (Config.helpText programName ++ "\n"), [], Or.inl rfl,
        ⟨fun _ => rfl, fun _ => rfl⟩, ?_⟩
      intro σ ℓ _ _ out launcher files input
      rw [ofArguments, htexts]
      simp only [hrequest]
    | refused refusal =>
      refine ⟨.exited 1, [], utf8 (refusal.message ++ "\nRun " ++ programName ++
        " --help for more information.\n"), Or.inr rfl, ⟨nofun, nofun⟩, ?_⟩
      intro σ ℓ _ _ out launcher files input
      rw [ofArguments, htexts]
      simp only [hrequest]

variable {σ ℓ : Type} [Sink σ] [Launcher ℓ]

/-- The run of the loop under a configuration. -/
def loop (config : Config) (out : σ) (launcher : ℓ) (files : FileSystem) (input : Input) :
    Run σ LimitedSink ℓ :=
  (Session.start out LimitedSink.unlimited launcher files config.verbosity).run .standard
    (!config.noPrompt) input

/-- How the loop ends decides how the program does. -/
lemma ofConfig_eq (config : Config) (out : σ) (launcher : ℓ) (files : FileSystem) (input : Input) :
    let r := loop config out launcher files input
    ofConfig config out launcher files input =
      ⟨r.ending?, r.closing.settle.outputBytes, r.closing.settle.diagnosticsBytes,
        r.closing.settle.files⟩ := by
  simp only [ofConfig, loop, Run.ending?, Run.closing]
  generalize Session.run Table.standard (!config.noPrompt) input
    (Session.start out LimitedSink.unlimited launcher files config.verbosity) = r
  rcases Launcher.departure? r.session.launcher with _ | signal | _ <;> cases r.failure <;> rfl

/-- Arguments that are a configuration have its loop run. -/
lemma ofArguments_of_asks_run {config : Config} (h : Asks arguments (.run config)) (out : σ)
    (launcher : ℓ) (files : FileSystem) (input : Input) :
    let r := loop config out launcher files input
    ofArguments arguments out launcher files input =
      ⟨r.ending?, r.closing.settle.outputBytes, r.closing.settle.diagnosticsBytes,
        r.closing.settle.files⟩ := by
  obtain ⟨ts, hforms, hrequest⟩ := h
  rw [ofArguments, texts_eq_ok_iff.mpr hforms]
  simp only [hrequest]
  exact ofConfig_eq config out launcher files input

variable {out : σ} {launcher : ℓ} {files : FileSystem} {input : Input}

lemma ending?_eq_of_asks_run {config : Config} (h : Asks arguments (.run config)) :
    (ofArguments arguments out launcher files input).ending? =
      (loop config out launcher files input).ending? := by
  rw [ofArguments_of_asks_run h]

/-- Only a run of the loop ends in another way than by exiting with one of two statuses. -/
lemma ending?_iff {P : Option Ending → Prop} (hzero : ¬ P (some (.exited 0)))
    (hone : ¬ P (some (.exited 1))) :
    P (ofArguments arguments out launcher files input).ending? ↔
      ∃ config, Asks arguments (.run config) ∧
        P (loop config out launcher files input).ending? := by
  by_cases hruns : ∃ config, Asks arguments (.run config)
  · obtain ⟨config, hconfig⟩ := hruns
    rw [ending?_eq_of_asks_run hconfig, hconfig.exists_run_iff]
  · obtain ⟨ending, output, diagnostics, hending, -, hall⟩ := exists_ofArguments_eq hruns
    rw [hall]
    constructor
    · rcases hending with rfl | rfl
      · exact fun h => absurd h hzero
      · exact fun h => absurd h hone
    · exact fun ⟨config, hconfig, _⟩ => absurd ⟨config, hconfig⟩ hruns

lemma ending?_eq_exited_zero_iff :
    (ofArguments arguments out launcher files input).ending? = some (.exited 0) ↔
      Asks arguments .help ∨ ∃ config, Asks arguments (.run config) ∧
        (loop config out launcher files input).failure = none ∧
        Launcher.departure? (loop config out launcher files input).session.launcher = none := by
  by_cases hruns : ∃ config, Asks arguments (.run config)
  · obtain ⟨config, hconfig⟩ := hruns
    have hhelp : ¬ Asks arguments .help := fun h => nomatch hconfig.unique h
    rw [ending?_eq_of_asks_run hconfig, hconfig.exists_run_iff, or_iff_right hhelp]
    exact Run.ending?_eq_exited_zero_iff
  · obtain ⟨ending, output, diagnostics, -, hzero, hall⟩ := exists_ofArguments_eq hruns
    rw [hall, or_iff_left fun ⟨config, hconfig, _⟩ => hruns ⟨config, hconfig⟩, Option.some_inj]
    exact hzero

lemma ending?_eq_killed_iff {signal : Nat} :
    (ofArguments arguments out launcher files input).ending? = some (.killed signal) ↔
      ∃ config, Asks arguments (.run config) ∧
        Launcher.departure? (loop config out launcher files input).session.launcher =
          some (.killed signal) := by
  simp only [← Run.ending?_eq_killed_iff]
  exact ending?_iff (P := (· = some (.killed signal))) nofun nofun

lemma ending?_eq_none_iff :
    (ofArguments arguments out launcher files input).ending? = none ↔
      ∃ config, Asks arguments (.run config) ∧
        Launcher.departure? (loop config out launcher files input).session.launcher =
          some .stuck := by
  simp only [← Run.ending?_eq_none_iff]
  exact ending?_iff (P := (· = none)) nofun nofun

lemma eq_zero_or_one_of_ending?_eq_exited {status : Nat}
    (h : (ofArguments arguments out launcher files input).ending? = some (.exited status)) :
    status = 0 ∨ status = 1 := by
  by_contra hneither
  obtain ⟨config, -, hloop⟩ := (ending?_iff (P := fun ending? => ∃ status,
    ending? = some (.exited status) ∧ ¬ (status = 0 ∨ status = 1)) (by simp) (by simp)).mp
      ⟨status, h, hneither⟩
  obtain ⟨status', hstatus, hother⟩ := hloop
  exact hother (Run.eq_zero_or_one_of_ending?_eq_exited hstatus)

/-- With an output that accepts everything and an input that can be read the loop does not fail. -/
lemma loop_failure_of_acceptsAll (config : Config) {out : σ} (hout : AcceptsAll out) (launcher : ℓ)
    (files : FileSystem) {input : Input}
    (hreadable : (Supply.ofArrivals input.arrivals).failure = none) :
    (loop config out launcher files input).failure = none :=
  Session.run_failure_of_accepts ⟨hout, LimitedSink.acceptsAll_unlimited⟩ hreadable

/-- The failure of the loop is the only error. -/
lemma errors_closing_loop (hrecords : RecordsAttempts ℓ) (config : Config) (out : σ) {launcher : ℓ}
    (halive : Launcher.departure? launcher = none) (files : FileSystem) (input : Input) :
    let r := loop config out launcher files input
    r.closing.errors = match r.failure with
      | none => []
      | some e => if config.verbosity = .off then [] else [failureRecord e] := by
  intro r
  have hcalm : Session.Calm
      (Session.start out LimitedSink.unlimited launcher files config.verbosity) r.session :=
    (Session.kept_calm hrecords).run .standard (!config.noPrompt) input _
  have hverbosity : r.session.verbosity = config.verbosity := hcalm.verbosity
  rw [← hverbosity]
  exact Run.errors_closing hcalm.errors_eq (Session.departure?_of_run_failure halive)

/-- A line whose launch does not return is the last thing that the interpreter does. -/
lemma departure?_loop_of_line {config : Config} (hsilent : config.noPrompt = true)
    {input : Input} {line : Bytes} {departure : Departure}
    (hread : input.readLine.result = .line line)
    (hexternal : Table.standard.isExternal (.ofLine line) = true)
    (hdeparts : Launcher.departure?
      (Launcher.launch launcher files (.ofLine line)).launcher = some departure) :
    Launcher.departure? (loop config out launcher files input).session.launcher =
      some departure := by
  let s := Session.start out LimitedSink.unlimited launcher files config.verbosity
  have hprompt : s.prompt (!config.noPrompt) = (none, s) := by rw [hsilent]; rfl
  have hready : Session.Untouched s (s.afterReading input) :=
    Session.keptAround_untouched.afterReading s input
  refine Session.departure?_run_of_line hprompt hread ?_
  rw [Session.launcher_executeLine _ hexternal, hready.launcher, hready.files]
  exact hdeparts

end ProgramRun

end CommandShell
