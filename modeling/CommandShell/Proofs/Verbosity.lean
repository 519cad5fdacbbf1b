import CommandShell.Proofs.Parallel
import CommandShell.Sink.Limited
import CommandShell.Transcript
import Mathlib

/-!
# Keeping fewer records

Which records are kept makes no difference to anything but the records.  Two runs from the same
beginning, of which the first keeps fewer records, have the same result; they leave the same input,
streams, launcher and files; and the same has happened in both but for the records that the first
one does not keep (`Session.run_quieter`).

The argument compares the two histories: the one with fewer records is the other one without those
of less important levels (`Session.Quieter`).  Everything that happens is added to both, and a
record is added to both, or to the second, or to none.  Whether it is kept is the only thing that
depends on the verbosity.
-/

namespace CommandShell

/-! ### Levels that are kept -/

namespace Verbosity

variable {v w : Verbosity} {level : Level}

/-- The rank of the least important level that is kept, and zero if no record is. -/
def rank (v : Verbosity) : Nat :=
  match v.limit with
  | none => 0
  | some limit => limit.rank

/-- The levels that are kept are those up to a rank. -/
lemma admits_iff_rank_le : v.admits level = true ↔ level.rank ≤ v.rank := by
  obtain ⟨limit | limit⟩ := v
  · cases level <;> decide
  · exact decide_eq_true_iff

/-- A higher rank keeps more. -/
lemma admits_of_rank_le (h : v.rank ≤ w.rank) (hlevel : v.admits level = true) :
    w.admits level = true :=
  admits_iff_rank_le.mpr (Nat.le_trans (admits_iff_rank_le.mp hlevel) h)

end Verbosity

/-- Whether an event is there to stay when only records of some levels are kept. -/
def Event.isKept (v : Verbosity) (e : Event) : Bool :=
  e.noted?.all fun r => v.admits r.level

namespace Session

variable {β σ τ ℓ : Type}

/-! ### Sessions with fewer records -/

/-- What is kept at a verbosity is all that has happened in the first session, and both are the same
otherwise. -/
structure Quieter (v w : Verbosity) (s t : Session σ τ ℓ) : Prop where
  abreast : Abreast s t
  verbosity : s.verbosity = v ∧ t.verbosity = w
  events : s.events = t.events.filter (Event.isKept v)

namespace Quieter

variable {v w : Verbosity} {s t : Session σ τ ℓ}

lemma start (v w : Verbosity) (out : σ) (err : τ) (launcher : ℓ) (files : FileSystem) :
    Quieter v w (start out err launcher files v) (Session.start out err launcher files w) :=
  ⟨⟨rfl, rfl, rfl, rfl⟩, ⟨rfl, rfl⟩, rfl⟩

/-- What is kept happens in both. -/
lemma happen (h : Quieter v w s t) {e : Event} (he : e.isKept v = true) :
    Quieter v w (s.happen e) (t.happen e) where
  abreast := ⟨h.abreast.out, h.abreast.err, h.abreast.launcher, h.abreast.files⟩
  verbosity := h.verbosity
  events := by
    rw [events_happen, events_happen, h.events, List.filter_append, List.filter_singleton, he,
      cond_true]

/-- What is not kept happens in the second session only. -/
lemma happen_right (h : Quieter v w s t) {e : Event} (he : e.isKept v = false) :
    Quieter v w s (t.happen e) where
  abreast := ⟨h.abreast.out, h.abreast.err, h.abreast.launcher, h.abreast.files⟩
  verbosity := h.verbosity
  events := by
    rw [events_happen, h.events, List.filter_append, List.filter_singleton, he, cond_false,
      List.append_nil]

/-- A record is made. -/
lemma note (h : Quieter v w s t) (hvw : v.rank ≤ w.rank) (r : Record) :
    Quieter v w (s.note r) (t.note r) := by
  rw [Session.note, Session.note, h.verbosity.1, h.verbosity.2]
  cases hv : v.admits r.level with
  | true =>
    rw [if_pos rfl, if_pos (Verbosity.admits_of_rank_le hvw hv)]
    exact h.happen hv
  | false =>
    rw [if_neg Bool.false_ne_true]
    split
    · exact h.happen_right hv
    · exact h

/-- The records of the first session are those of the second one up to a rank. -/
lemma records_eq (h : Quieter v w s t) :
    s.records = t.records.filter fun r => r.level.rank ≤ v.rank := by
  have hlevels : (fun r : Record => decide (r.level.rank ≤ v.rank)) = fun r => v.admits r.level :=
    funext fun r => Bool.eq_iff_iff.mpr (decide_eq_true_iff.trans Verbosity.admits_iff_rank_le.symm)
  rw [hlevels]
  change s.events.filterMap Event.noted? = (t.events.filterMap Event.noted?).filter _
  rw [h.events, List.filterMap_filter, List.filter_filterMap]
  refine List.filterMap_congr fun e _ => ?_
  cases hnoted : e.noted? with
  | none => simp [Event.isKept, hnoted]
  | some r => simp [Event.isKept, hnoted, Option.filter]

/-- Records are not seen. -/
lemma sights_eq (h : Quieter v w s t) : s.sights = t.sights := by
  rw [sights, sights, h.events]
  induction t.events with
  | nil => rfl
  | cons e events ih =>
    cases hkept : e.isKept v with
    | true =>
      rw [List.filter_cons_of_pos hkept]
      exact congrArg (Sight.prepend e) ih
    | false =>
      rw [List.filter_cons_of_neg (Bool.not_eq_true _ ▸ hkept), ih]
      cases e with
      | noted r => rfl
      | _ => cases hkept

end Quieter

variable [Sink σ] [Sink τ]

/-- Every act keeps the first session quieter, and is answered the same in both. -/
lemma fullyParallel_quieter {v w : Verbosity} (hvw : v.rank ≤ w.rank) :
    FullyParallel (Quieter v w : Session σ τ ℓ → Session σ τ ℓ → Prop) :=
  .of_abreast (fun h => h.abreast)
    (fun h _ _ _ _ => ⟨⟨rfl, rfl, rfl, rfl⟩, h.verbosity, h.events⟩)
    (fun h e he => h.happen (by rw [Event.isKept, he, Option.all_none])) fun h r => h.note hvw r

variable [Launcher ℓ] [HasHandler β]

/-- Which records are kept makes no difference to what a run does, for any table, any streams, any
launcher, any files and any input: the result is the same, and so are what is left of the input, the
streams, the launcher and the files, and what is seen.  Of two runs the one that keeps records of
fewer levels has the history of the other one without the records of the other levels, in the same
order; where none are kept, there are none. -/
theorem run_quieter {v w : Verbosity} (hvw : v.rank ≤ w.rank) (table : Table β) (prompting : Bool)
    (input : Input) (out : σ) (err : τ) (launcher : ℓ) (files : FileSystem) :
    let r := (start out err launcher files v).run table prompting input
    let r' := (start out err launcher files w).run table prompting input
    r.failure = r'.failure ∧ r.input = r'.input ∧ Abreast r.session r'.session ∧
      r.session.sights = r'.session.sights ∧
      r.session.events = r'.session.events.filter (Event.isKept v) ∧
      r.session.records = r'.session.records.filter (fun record => record.level.rank ≤ v.rank) ∧
      (v = .off → r.session.records = []) := by
  intro r r'
  have hparallel : FullyParallel (Quieter v w : Session σ τ ℓ → Session σ τ ℓ → Prop) :=
    fullyParallel_quieter hvw
  obtain ⟨hfailure, hinput, hquieter⟩ :=
    hparallel.run hparallel.readsAlike_eq table prompting rfl
      (Quieter.start v w out err launcher files)
  refine ⟨hfailure, hinput, hquieter.abreast, hquieter.sights_eq, hquieter.events,
    hquieter.records_eq, ?_⟩
  rintro rfl
  rw [hquieter.records_eq]
  refine List.filter_eq_nil_iff.mpr fun record _ => ?_
  cases record.level <;> decide

/-- Of a run that launches a program and is ended by a command, two records are kept up to a level,
and at the least important level these two are among all others. -/
theorem run_quieter_info :
    let s := start LimitedSink.unlimited LimitedSink.unlimited
      (⟨[.ok (.exited 3)]⟩ : ScriptedLauncher) ⟨[], [], [], []⟩
    let input := Input.ofBytes (utf8 "ls -la\nexit\n")
    let kept := [⟨.info, "ls exited with status 3"⟩, Record.exitRequested]
    ((s (.upTo .info)).run Table.standard true input).session.records = kept ∧
      ((s (.upTo .trace)).run Table.standard true input).session.records.filter
        (fun record => record.level.rank ≤ 3) = kept := by
  intro s input kept
  have hkept : ((s (.upTo .info)).run Table.standard true input).session.records = kept := by
    subst s input kept
    cbv
  have hrecords := (run_quieter (show (Verbosity.upTo .info).rank ≤ (Verbosity.upTo .trace).rank by
    decide) Table.standard true input LimitedSink.unlimited LimitedSink.unlimited
    (⟨[.ok (.exited 3)]⟩ : ScriptedLauncher) ⟨[], [], [], []⟩).2.2.2.2.2.1
  exact ⟨hkept, hrecords.symm.trans hkept⟩

end Session

end CommandShell
