import CommandShell.Proofs.History
import CommandShell.Proofs.Mirrors
import CommandShell.Proofs.SingleLines

/-!
# What is told of commands

A session that keeps all records and whose stream of diagnostics accepts everything is *attentive*.
What is told in it, the records and the diagnostics, is what its commands come to (`Deed`): a
builtin command is told of by one record, and by one diagnostic if it fails; a program by the record
of its launch and then by one record of how it ended or one diagnostic of why there is nothing to
tell.

`Session.Tells` says of an act what is told in it, and that nothing else reaches the stream of
diagnostics.  The acts of handlers tell nothing, so a command tells what its deed says
(`Session.Tells.execute`), and a sequence of commands tells one deed after the other.
-/

namespace CommandShell

open Sink (AcceptsAll)
open Text (OneLine)

namespace Event

/-- Whether an event is a record, a diagnostic or a launch. -/
def isReport : Event → Bool
  | noted _ | diagnostics _ | launched _ => true
  | _ => false

/-- The bytes that an event adds to the diagnostics of the interpreter. -/
def diagnostics? : Event → Option Bytes
  | diagnostics bytes => some bytes
  | _ => none

/-- What handlers do is not told. -/
lemma isReport_of_isOfHandler {e : Event} (h : e.isOfHandler = true) : e.isReport = false := by
  cases e <;> first | rfl | cases h

end Event

/-! ### Deeds -/

/-- What a command comes to. -/
inductive Deed where
  /-- Without a name there is no command. -/
  | nothing
  /-- The handler of a builtin command comes to a verdict. -/
  | builtin (name : Bytes) (verdict : Verdict)
  /-- A program is launched, perhaps after a flush that failed, and the launcher answers. -/
  | program (name : Bytes) (args : ArgVector) (unflushed : Option IoError)
      (answer : Except ShellError Outcome)

namespace Deed

/-- The diagnostic line of a failure. -/
def line (text : String) : Bytes :=
  utf8 ("lsh: " ++ text ++ "\n")

/-- How a launch is told of in the end. -/
def ending (name : Bytes) : Except ShellError Outcome → Event
  | .ok (.exited status) =>
    if status = 0 then .noted ⟨.debug, Text.display name ++ " exited successfully"⟩
    else .noted ⟨.info, Text.display name ++ " exited with status " ++ toString status⟩
  | .ok (.signaled signal) =>
    .noted ⟨.warn, Text.display name ++ " terminated by " ++ signal.name⟩
  | .error e => .diagnostics (line e.message)

/-- A program that has ended is told of by one record. -/
lemma ending_ok (name : Bytes) (outcome : Outcome) :
    ending name (.ok outcome) = .noted (.ended (Text.display name) outcome) := by
  cases outcome with
  | exited status =>
    rw [ending, Record.ended]
    split <;> rfl
  | signaled signal => rfl

/-- What is told of a deed. -/
def told : Deed → List Event
  | nothing => []
  | builtin name (.ok _) => [.noted ⟨.debug, "builtin " ++ Text.display name⟩]
  | builtin name (.error f) =>
    [.noted ⟨.debug, "builtin " ++ Text.display name⟩,
      .diagnostics (line (": ".intercalate f.layers))]
  | program name args unflushed answer =>
    (unflushed.map fun e => .noted (.flushFailed (Text.display name) e)).toList ++
      [.noted (.launching args), .launched args, ending name answer]

/-- Why a command failed, if it did: the layers of the failure from the outermost to the innermost,
or the text of the launcher. -/
def complaint? : Deed → Option String
  | builtin _ (.error f) => some (": ".intercalate f.layers)
  | program _ _ _ (.error e) => some e.message
  | _ => none

/-- The text of the error of input, output or launching that a command failed for, if there is one.
-/
def cause? : Deed → Option String
  | builtin _ (.error f) => f.cause?.map IoError.message
  | program _ _ _ (.error e) => some e.message
  | _ => none

/-- A failing command is told of by one diagnostic, every other one by none. -/
lemma filterMap_diagnostics?_told (d : Deed) :
    d.told.filterMap Event.diagnostics? = d.complaint?.toList.map line := by
  cases d with
  | nothing => rfl
  | builtin name verdict => cases verdict <;> rfl
  | program name args unflushed answer =>
    have hflush : List.filterMap Event.diagnostics?
        (unflushed.map fun e => Event.noted (.flushFailed (Text.display name) e)).toList = [] := by
      cases unflushed <;> rfl
    rw [told, List.filterMap_append, hflush, List.nil_append]
    rcases answer with e | ⟨status | signal⟩
    · rfl
    · simp only [ending]
      split <;> rfl
    · rfl

/-- No record of a deed is an error. -/
lemma level_ne_error_of_mem_told {d : Deed} {r : Record} (h : .noted r ∈ d.told) :
    r.level ≠ .error := by
  cases d with
  | nothing => cases h
  | builtin name verdict =>
    cases verdict <;>
    · simp only [told, List.mem_cons, Event.noted.injEq, reduceCtorEq, List.not_mem_nil,
        or_false] at h
      rw [h]
      exact fun hlevel => by cases hlevel
  | program name args unflushed answer =>
    rcases List.mem_append.mp h with hflush | hlaunch
    · obtain ⟨e, -, he⟩ := Option.map_eq_some_iff.mp (Option.mem_toList.mp hflush)
      cases he
      exact fun hlevel => by cases hlevel
    · simp only [List.mem_cons, List.not_mem_nil, or_false, reduceCtorEq, false_or] at hlaunch
      rcases hlaunch with hr | hr
      · cases hr
        exact fun hlevel => by cases hlevel
      · rcases answer with e | ⟨status | signal⟩
        · cases hr
        · rw [ending] at hr
          split at hr <;>
          · cases hr
            exact fun hlevel => by cases hlevel
        · cases hr
          exact fun hlevel => by cases hlevel

end Deed

namespace Session

variable {β σ τ ℓ : Type}

/-- What is told in a session, in order: records, diagnostics and launches. -/
def reports (s : Session σ τ ℓ) : List Event :=
  s.events.filter Event.isReport

/-- Events that are not reports leave the reports as they are. -/
lemma Adds.reports_eq {kind : Event → Bool} {s s' : Session σ τ ℓ} (h : Adds kind s s')
    (hk : ∀ e, kind e = true → e.isReport = false) : s'.reports = s.reports := by
  obtain ⟨new, hnew, hkind⟩ := h
  have hnone : new.filter Event.isReport = [] :=
    List.filter_eq_nil_iff.mpr fun e he => by simp [hk e (hkind e he)]
  rw [reports, hnew, List.filter_append, hnone, List.append_nil, reports]

/-- A report is added at the end. -/
lemma reports_happen {e : Event} (he : e.isReport = true) (s : Session σ τ ℓ) :
    (s.happen e).reports = s.reports ++ [e] := by
  rw [reports, events_happen, List.filter_append, List.filter_singleton, he]
  rfl

/-- Any other event is none. -/
lemma reports_happen_of_eq_false {e : Event} (he : e.isReport = false) (s : Session σ τ ℓ) :
    (s.happen e).reports = s.reports := by
  rw [reports, events_happen, List.filter_append, List.filter_singleton, he]
  simp [reports]

/-- The diagnostics are among the reports. -/
lemma filterMap_diagnostics?_reports (s : Session σ τ ℓ) :
    s.reports.filterMap Event.diagnostics? = s.events.filterMap Event.diagnostics? := by
  rw [reports, List.filterMap_filter]
  refine congrArg (s.events.filterMap ·) (funext fun e => ?_)
  cases e <;> rfl

/-- The records are among the reports. -/
lemma noted_mem_reports {s : Session σ τ ℓ} {r : Record} (h : r ∈ s.records) :
    .noted r ∈ s.reports := by
  obtain ⟨e, he, hr⟩ := List.mem_filterMap.mp h
  cases e with
  | noted r' =>
    cases hr
    exact List.mem_filter.mpr ⟨he, rfl⟩
  | _ => cases hr

variable [Sink τ]

/-- A stream of diagnostics that has taken one. -/
def hearing (err : τ) (bytes : Bytes) : τ :=
  (Sink.flush (Sink.writeAll err bytes).sink).2

/-- A session that keeps all records and whose stream of diagnostics accepts everything. -/
structure Attentive (s : Session σ τ ℓ) : Prop where
  verbosity : s.verbosity = .upTo .trace
  err : AcceptsAll s.err

/-- What an act tells, and that nothing else reaches the stream of diagnostics. -/
structure Tells (told : List Event) (s s' : Session σ τ ℓ) : Prop where
  attentive : s'.Attentive
  reports : s'.reports = s.reports ++ told
  err : s'.err = (told.filterMap Event.diagnostics?).foldl hearing s.err

namespace Tells

variable {s s' s'' : Session σ τ ℓ} {told told' : List Event}

lemma trans (h : Tells told s s') (h' : Tells told' s' s'') : Tells (told ++ told') s s'' where
  attentive := h'.attentive
  reports := by rw [h'.reports, h.reports, List.append_assoc]
  err := by rw [h'.err, h.err, List.filterMap_append, List.foldl_append]

/-- Acts that change neither the reports nor the stream of diagnostics tell nothing. -/
lemma nothing (h : s.Attentive) (hreports : s'.reports = s.reports) (herr : s'.err = s.err)
    (hverbosity : s'.verbosity = s.verbosity) : Tells [] s s' where
  attentive := ⟨hverbosity.trans h.verbosity, herr ▸ h.err⟩
  reports := hreports.trans (List.append_nil _).symm
  err := herr

lemma refl (h : s.Attentive) : Tells [] s s :=
  nothing h rfl rfl rfl

/-- All records are kept. -/
lemma note (h : s.Attentive) (r : Record) : Tells [.noted r] s (s.note r) := by
  have hkept : s.verbosity.admits r.level = true := by
    rw [h.verbosity]
    cases r.level <;> decide
  rw [Session.note, if_pos hkept]
  exact ⟨⟨h.verbosity, h.err⟩, reports_happen rfl s, rfl⟩

lemma noteAll (h : s.Attentive) (rs : List Record) : Tells (rs.map .noted) s (s.noteAll rs) := by
  induction rs generalizing s with
  | nil => exact refl h
  | cons r rs ih => exact (note h r).trans (ih (note h r).attentive)

/-- A diagnostic is taken as a whole. -/
lemma report (h : s.Attentive) (text : String) :
    Tells [.diagnostics (Deed.line text)] s (s.report text) := by
  obtain ⟨hcount, hfailure, hsink⟩ := h.err.writeAll_eq (Deed.line text)
  have hne : (Deed.line text).length ≠ 0 := by
    rw [Deed.line, utf8_append, utf8_append, List.length_append, List.length_append]
    have hname : (utf8 "lsh: ").length = 5 := by decide
    omega
  have hreport : s.report text =
      ({ s with err := hearing s.err (Deed.line text) }).happen
        (.diagnostics (Deed.line text)) := by
    rw [Deed.line] at hcount hfailure hne
    simp only [Session.report, hcount, hfailure, Option.isNone_none, if_true, if_neg hne,
      List.take_length]
    rfl
  rw [hreport]
  exact ⟨⟨h.verbosity, hsink.of_called (.flush _)⟩, reports_happen rfl _, rfl⟩

variable [Sink σ]

/-- A flush tells nothing. -/
lemma flush (h : s.Attentive) : Tells [] s s.flush.2 :=
  nothing h (reports_happen_of_eq_false rfl _) rfl rfl

/-- The flush before a launch is told of if it fails. -/
lemma flushBeforeLaunch (h : s.Attentive) (name : String) :
    Tells (s.flush.1.map fun e => .noted (.flushFailed name e)).toList s
      (s.flushBeforeLaunch name) := by
  have hflush : Tells [] s s.flush.2 := flush h
  rw [Session.flushBeforeLaunch]
  generalize s.flush = flushed at hflush ⊢
  obtain ⟨failure | e, s'⟩ := flushed
  · exact hflush
  · exact hflush.trans (note hflush.attentive _)

variable [Launcher ℓ]

/-- A handler tells nothing. -/
lemma handler (c : Handler) (h : s.Attentive) : Tells [] s (c.run s).2 := by
  have hkept : (c.run s).2.err = s.err ∧ (c.run s).2.verbosity = s.verbosity := by
    refine Handler.run_rel
      (R := fun s s' : Session σ τ ℓ => s'.err = s.err ∧ s'.verbosity = s.verbosity)
      (fun _ => ⟨rfl, rfl⟩) (fun h h' => ⟨h'.1.trans h.1, h'.2.trans h.2⟩) ?_ ?_ ?_ ?_ ?_ ?_ c s
    · intro s bytes
      simp only [print]
      split <;> exact ⟨rfl, rfl⟩
    · intro s bytes
      simp only [offer]
      split <;> exact ⟨rfl, rfl⟩
    · exact fun s => ⟨rfl, rfl⟩
    · exact fun s path => ⟨(Unmoved.takeAccess s _).err, (Unmoved.takeAccess s _).verbosity⟩
    · exact fun s path => ⟨(Unmoved.takeAccess s _).err, (Unmoved.takeAccess s _).verbosity⟩
    · exact fun s f => ⟨rfl, rfl⟩
  exact nothing h ((Adds.handler c s).reports_eq fun _ => Event.isReport_of_isOfHandler) hkept.1
    hkept.2

/-- A builtin command tells of itself and of its failure. -/
lemma runBuiltin [HasHandler β] (h : s.Attentive) (name : Bytes) (b : β) (args : ArgVector) :
    Tells (Deed.builtin name ((HasHandler.handler b args).run
        (s.note (.builtin (Text.display name)))).1).told s
      ((s.note (.builtin (Text.display name))).runBuiltin b args).2 := by
  have hnoted := note h (.builtin (Text.display name))
  have hhandler := hnoted.trans (handler (HasHandler.handler b args) hnoted.attentive)
  rw [Session.runBuiltin]
  generalize (HasHandler.handler b args).run (s.note (.builtin (Text.display name))) = ran
    at hhandler ⊢
  obtain ⟨f | status, s'⟩ := ran
  · exact hhandler.trans (report hhandler.attentive f.message)
  · exact hhandler

end Tells

/-! ### Commands -/

section

variable {s : Session σ τ ScriptedLauncher}

/-- A launcher with prepared answers gives the next one, and the launch is all that is told. -/
lemma Tells.launch (h : s.Attentive) (args : ArgVector) :
    (s.launch args).1 = some (s.launcher.answers.headD (.ok (.exited 0))) ∧
      Tells [.launched args] s (s.launch args).2 := by
  simp only [Session.launch, Launcher.launch, ScriptedLauncher.launch]
  split <;> rename_i heq <;>
  · rw [heq]
    exact ⟨rfl, ⟨h.verbosity, h.err⟩, reports_happen rfl _, rfl⟩

variable [Sink σ]

/-- A launch is told of before it is made, and how it ended is told of afterwards. -/
lemma Tells.runProgram (h : s.Attentive) (name : Bytes) (args : ArgVector) :
    Tells (Deed.program name args s.flush.1 (s.launcher.answers.headD (.ok (.exited 0)))).told s
      (s.runProgram name args) := by
  have hflush := flushBeforeLaunch h (Text.display name)
  have hlaunching := hflush.trans (note hflush.attentive (.launching args))
  obtain ⟨hanswer, hcall⟩ := launch hlaunching.attentive args
  have hready : Untouched s ((s.flushBeforeLaunch (Text.display name)).note (.launching args)) :=
    (Untouched.flushBeforeLaunch s _).trans (Unmoved.note _ _).toUntouched
  rw [hready.launcher] at hanswer
  rw [Session.runProgram]
  generalize ((s.flushBeforeLaunch (Text.display name)).note (.launching args)).launch args
    = called at hanswer hcall ⊢
  generalize s.launcher.answers.headD (.ok (.exited 0)) = answer at hanswer ⊢
  obtain ⟨result, s'⟩ := called
  cases hanswer
  have htold := hlaunching.trans hcall
  cases answer with
  | ok outcome =>
    have hended := htold.trans (note htold.attentive (.ended (Text.display name) outcome))
    rwa [← Deed.ending_ok, List.append_assoc, List.append_assoc] at hended
  | error e =>
    have hfailed := htold.trans (report htold.attentive e.message)
    rwa [List.append_assoc, List.append_assoc] at hfailed

variable [HasHandler β]

/-- What a command comes to in a session. -/
def deed (table : Table β) (args : ArgVector) (s : Session σ τ ScriptedLauncher) : Deed :=
  match args.command? with
  | none => .nothing
  | some name =>
    match table.builtin? name with
    | some b =>
      .builtin name
        ((HasHandler.handler b args).run (s.note (.builtin (Text.display name)))).1
    | none => .program name args s.flush.1 (s.launcher.answers.headD (.ok (.exited 0)))

/-- A command tells what it comes to. -/
theorem Tells.execute (h : s.Attentive) (table : Table β) (args : ArgVector) :
    Tells (s.deed table args).told s (s.execute table args).2 := by
  rw [deed, Session.execute]
  cases args.command? with
  | none => exact refl h
  | some name =>
    simp only
    cases table.builtin? name with
    | some b => exact runBuiltin h name b args
    | none => exact runProgram h name args

/-! ### Sequences of commands -/

/-- Executes lines one after the other, also after one that would end the loop. -/
def executeAll (table : Table β) : List Bytes → Session σ τ ScriptedLauncher →
    Session σ τ ScriptedLauncher
  | [], s => s
  | line :: rest, s =>
    executeAll table rest ((s.noteGrowth (.ofLine line)).execute table (.ofLine line)).2

/-- What the commands of lines come to. -/
def deeds (table : Table β) : List Bytes → Session σ τ ScriptedLauncher → List Deed
  | [], _ => []
  | line :: rest, s =>
    (s.noteGrowth (.ofLine line)).deed table (.ofLine line) ::
      deeds table rest ((s.noteGrowth (.ofLine line)).execute table (.ofLine line)).2

/-- Each line comes to something. -/
lemma length_deeds (table : Table β) (lines : List Bytes)
    (s : Session σ τ ScriptedLauncher) : (s.deeds table lines).length = lines.length := by
  induction lines generalizing s with
  | nil => rfl
  | cons line rest ih => rw [deeds, List.length_cons, List.length_cons, ih]

/-- What is told of a line: the records of storing its arguments, and its command. -/
def told (executed : Bytes × Deed) : List Event :=
  (ArgVector.ofLine executed.1).growthRecords.map .noted ++ executed.2.told

/-- Lines tell what their commands come to, one after the other. -/
lemma Tells.executeAll (h : s.Attentive) (table : Table β) (lines : List Bytes) :
    Tells ((lines.zip (s.deeds table lines)).flatMap told) s (s.executeAll table lines) := by
  induction lines generalizing s with
  | nil => exact refl h
  | cons line rest ih =>
    have hgrowth := noteAll h (ArgVector.ofLine line).growthRecords
    have hexecute := hgrowth.trans (execute hgrowth.attentive table (.ofLine line))
    exact hexecute.trans (ih hexecute.attentive)

/-- The diagnostics of lines are those of the commands that fail. -/
lemma filterMap_diagnostics?_told (table : Table β) (lines : List Bytes)
    (s : Session σ τ ScriptedLauncher) :
    ((lines.zip (s.deeds table lines)).flatMap told).filterMap Event.diagnostics? =
      ((s.deeds table lines).filterMap Deed.complaint?).map Deed.line := by
  induction lines generalizing s with
  | nil => rfl
  | cons line rest ih =>
    have hgrowth : ((ArgVector.ofLine line).growthRecords.map Event.noted).filterMap
        Event.diagnostics? = [] := by
      simp [List.filterMap_map, Function.comp_def, Event.diagnostics?]
    rw [deeds, List.zip_cons_cons, List.flatMap_cons, List.filterMap_append, ih, told,
      List.filterMap_append, hgrowth, List.nil_append, Deed.filterMap_diagnostics?_told,
      List.filterMap_cons]
    cases (s.noteGrowth (.ofLine line)).deed table (.ofLine line) |>.complaint? <;> rfl

/-- No record of lines is an error. -/
lemma level_ne_error_of_mem_told {executed : List (Bytes × Deed)} {r : Record}
    (h : .noted r ∈ executed.flatMap told) : r.level ≠ .error := by
  obtain ⟨⟨line, d⟩, -, hr⟩ := List.mem_flatMap.mp h
  rcases List.mem_append.mp hr with hgrowth | hdeed
  · obtain ⟨r', hr', heq⟩ := List.mem_map.mp hgrowth
    cases heq
    obtain ⟨slots, -, rfl⟩ := List.mem_map.mp hr'
    exact fun hlevel => by cases hlevel
  · exact Deed.level_ne_error_of_mem_told hdeed

end

/-! ### Diagnostics in one line -/

section

variable [Sink σ] {s : Session σ τ ScriptedLauncher}

omit [Sink τ] in
/-- A builtin command quotes nothing but arguments of its line. -/
lemma quotes_of_deed_eq_builtin {table : Table} {line name : Bytes} {verdict : Verdict}
    (h : s.deed table (.ofLine line) = .builtin name verdict) :
    verdict.Quotes (.ofLine line) := by
  rw [deed] at h
  split at h
  · cases h
  · split at h
    · next b hb =>
      cases h
      exact (b.yields_handler _).run (Verdict.quotes_ok .proceed) _
    · cases h

/-- A builtin command says why it failed in one line if its cause is told in one, and so does a
launch. -/
lemma oneLine_of_complaint?_eq_some {table : Table} {lines : List Bytes} {d : Deed}
    (h : d ∈ s.deeds table lines) (hcause : ∀ text, d.cause? = some text → OneLine text)
    {text : String} (htext : d.complaint? = some text) : OneLine text := by
  induction lines generalizing s with
  | nil => cases h
  | cons line rest ih =>
    rcases List.mem_cons.mp h with hd | h
    · cases d with
      | nothing => cases htext
      | builtin name verdict =>
        cases verdict with
        | ok status => cases htext
        | error f =>
          cases htext
          refine Failure.oneLine_message (quotes_of_deed_eq_builtin hd.symm).oneLine ?_
          intro e he
          exact hcause e.message (by rw [Deed.cause?, he]; rfl)
      | program name args unflushed answer =>
        cases answer with
        | ok outcome => cases htext
        | error e =>
          cases htext
          exact hcause e.message rfl
    · exact ih h

/-- In a session that keeps all records and whose stream of diagnostics accepts everything, what is
told of commands is what each of them comes to.  The stream of diagnostics gets one line for each
command that fails, with the layers of its failure or the text of the launcher, and nothing else.  A
launch is told of by the record of its arguments and then in one of four ways, a builtin command by
one record, and no record is an error.  The diagnostics of the commands of every session are single
lines if the errors that they come from are told in one line. -/
theorem reports_executeAll {β : Type} [HasHandler β] (table : Table β) (lines : List Bytes)
    (out : σ) (err : τ) (herr : AcceptsAll err) (launcher : ScriptedLauncher)
    (files : FileSystem) :
    let s := start out err launcher files (.upTo .trace)
    (let t := s.executeAll table lines
      let ds := s.deeds table lines
      let complaints := (ds.filterMap Deed.complaint?).map Deed.line
      ds.length = lines.length ∧ t.reports = (lines.zip ds).flatMap told ∧
      t.events.filterMap Event.diagnostics? = complaints ∧ t.err = complaints.foldl hearing err ∧
      ∀ r ∈ t.records, r.level ≠ .error) ∧
    ∀ builtins : Table,
      (∀ d ∈ s.deeds builtins lines, ∀ text, d.cause? = some text → OneLine text) →
      let single := ((s.deeds builtins lines).filterMap Deed.complaint?).map fun text =>
        utf8 ("lsh: " ++ text)
      (s.executeAll builtins lines).events.filterMap Event.diagnostics? =
          single.map (· ++ [LineRead.newline]) ∧
        ∀ line ∈ single, LineRead.newline ∉ line := by
  intro s
  have hattentive : s.Attentive := ⟨rfl, herr⟩
  have hdiagnostics {β : Type} [HasHandler β] (table : Table β) :
      (s.executeAll table lines).events.filterMap Event.diagnostics? =
        ((s.deeds table lines).filterMap Deed.complaint?).map Deed.line := by
    rw [← filterMap_diagnostics?_reports, (Tells.executeAll hattentive table lines).reports]
    exact filterMap_diagnostics?_told table lines s
  refine ⟨⟨length_deeds table lines s, ?_, hdiagnostics table, ?_, fun r hr => ?_⟩,
    fun builtins hcause => ⟨?_, fun line hline => ?_⟩⟩
  · exact (Tells.executeAll hattentive table lines).reports
  · rw [(Tells.executeAll hattentive table lines).err, filterMap_diagnostics?_told]
    rfl
  · have hreport := noted_mem_reports hr
    rw [(Tells.executeAll hattentive table lines).reports] at hreport
    exact level_ne_error_of_mem_told hreport
  · rw [hdiagnostics, List.map_map]
    refine List.map_congr_left fun text _ => ?_
    rw [Deed.line, utf8_append]
    rfl
  · obtain ⟨text, htext, rfl⟩ := List.mem_map.mp hline
    obtain ⟨d, hd, hcomplaint⟩ := List.mem_filterMap.mp htext
    have hone : OneLine text := oneLine_of_complaint?_eq_some hd (hcause d hd) hcomplaint
    rw [Text.newline_mem_utf8_iff, String.toList_append, List.mem_append]
    rintro (hname | hmem)
    · revert hname
      decide
    · exact hone hmem

end

/-- A launch that fails after a flush that failed, and a builtin command that fails. -/
theorem reports_executeAll_launch_failing :
    let table : Table := [("fail", .fail)]
    let lines := [utf8 "ls", utf8 "fail", []]
    let s := start { LimitedSink.unlimited with failingFlush := some (1, .system .noSpace) }
      LimitedSink.unlimited (⟨[.error (.invalidArgument "ls")]⟩ : ScriptedLauncher) ⟨[], [], [], []⟩
      (.upTo .trace)
    (∀ d ∈ s.deeds table lines, ∀ text, d.cause? = some text → OneLine text) ∧
      (s.executeAll table lines).events.filterMap Event.diagnostics? =
        [utf8 "lsh: ls: argument contains a NUL byte\n", utf8 "lsh: broken builtin\n"] := by
  intro table lines s
  have hdeeds : s.deeds table lines =
      [.program (utf8 "ls") [utf8 "ls"] (some (.system .noSpace)) (.error (.invalidArgument "ls")),
        .builtin (utf8 "fail") (.error .broken), .nothing] := by
    have hls : ArgVector.ofLine (utf8 "ls") = [utf8 "ls"] := by decide
    have hfail : ArgVector.ofLine (utf8 "fail") = [utf8 "fail"] := by decide
    have hprogram : table.builtin? (utf8 "ls") = none := by decide
    have hbuiltin : table.builtin? (utf8 "fail") = some .fail := by decide
    simp only [lines, deeds, deed, hls, hfail, ArgVector.command?, List.head?_cons, hprogram,
      hbuiltin]
    rfl
  have hcause : ∀ d ∈ s.deeds table lines, ∀ text, d.cause? = some text → OneLine text := by
    rw [hdeeds]
    simp only [List.forall_mem_cons, Deed.cause?, Failure.cause?, Option.map_none, reduceCtorEq,
      Option.some.injEq, forall_eq', false_implies, implies_true, and_true,
      List.not_mem_nil]
    decide
  refine ⟨hcause, ?_⟩
  rw [((reports_executeAll table lines _ _ LimitedSink.acceptsAll_unlimited _ _).2 table hcause).1,
    hdeeds]
  decide

end Session

end CommandShell
