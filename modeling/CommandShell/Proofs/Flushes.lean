import CommandShell.Proofs.History
import CommandShell.Proofs.Turns
import Mathlib

/-!
# Output is not held back

Events are *settled* if everything that the output accepted was accepted before a flush that
succeeded (`Event.Settled`).  A session reads its input and launches programs only while its events
are settled (`Event.Timely`), and a run that succeeds ends with settled events.

A turn begins settled, since each turn before it has ended with a flush that succeeded.  The prompt
is flushed, reading prints nothing, and so the command of the turn finds everything settled: if it
is a program, it is launched in that state, whether or not the flush made for it succeeds, and if it
is a builtin command it launches nothing and the flush after it settles what it printed.  The first
turn that cannot flush is the last one.
-/

namespace CommandShell

namespace Event

/-! ### Settled events -/

/-- Everything that the output accepted was accepted before a flush that succeeded. -/
def Settled (events : List Event) : Prop :=
  ∀ before bytes after, events = before ++ .output bytes :: after → .flushed true ∈ after

/-- The last thing that happened, but for records, is a flush. -/
def EndsInFlush (events : List Event) : Prop :=
  ∃ (earlier : List Event) (success : Bool) (records : List Record),
    events = earlier ++ .flushed success :: records.map .noted

/-- Whether an event is no output. -/
def isSilent : Event → Bool
  | output _ => false
  | _ => true

/-- What has to hold of the events before an event: the input is read and programs are launched only
while they are settled, and each launch has a flush of its own. -/
def AllowedAfter (before : List Event) : Event → Prop
  | .asked => Settled before
  | .launched _ => Settled before ∧ EndsInFlush before
  | _ => True

/-- Each event is allowed after those before it. -/
def Timely (events : List Event) : Prop :=
  ∀ before e after, events = before ++ e :: after → AllowedAfter before e

/-- An event of two lists, one after the other, is one of the first or one of the second. -/
lemma eq_append_cons_cases {a b before after : List Event} {e : Event}
    (h : a ++ b = before ++ e :: after) :
    (∃ rest, a = before ++ e :: rest ∧ after = rest ++ b) ∨
      ∃ rest, b = rest ++ e :: after ∧ before = a ++ rest := by
  rcases List.append_eq_append_iff.mp h with ⟨rest, rfl, hb⟩ | ⟨rest, rfl, hafter⟩
  · exact Or.inr ⟨rest, hb, rfl⟩
  · cases rest with
    | nil => exact Or.inr ⟨[], by simpa using hafter.symm, by simp⟩
    | cons e' rest =>
      obtain ⟨rfl, rfl⟩ := List.cons.inj hafter
      exact Or.inl ⟨rest, rfl, rfl⟩

lemma settled_nil : Settled [] := by
  intro before bytes after h
  simp at h

/-- Events other than output leave everything settled. -/
lemma Settled.append {events new : List Event} (h : Settled events)
    (hnew : ∀ bytes, .output bytes ∉ new) : Settled (events ++ new) := by
  intro before bytes after heq
  rcases eq_append_cons_cases heq with ⟨rest, hevents, rfl⟩ | ⟨rest, rfl, -⟩
  · exact List.mem_append_left _ (h before bytes rest hevents)
  · exact absurd (by simp) (hnew bytes)

/-- A flush that succeeds settles everything. -/
lemma settled_append_flushed (events : List Event) : Settled (events ++ [.flushed true]) := by
  intro before bytes after heq
  rcases eq_append_cons_cases heq with ⟨rest, -, rfl⟩ | ⟨rest, hrest, -⟩
  · exact List.mem_append_right _ List.mem_cons_self
  · have hmem : Event.output bytes ∈ [Event.flushed true] := hrest ▸ by simp
    simp at hmem

/-! ### Timely events -/

lemma timely_nil : Timely [] := by
  intro before e after h
  simp at h

namespace Timely

variable {events : List Event} (h : Timely events)
include h

/-- An event that is allowed may happen. -/
lemma concat {e : Event} (he : AllowedAfter events e) : Timely (events ++ [e]) := by
  intro before e' after heq
  rcases eq_append_cons_cases heq with ⟨rest, hevents, -⟩ | ⟨rest, hrest, rfl⟩
  · exact h before e' rest hevents
  · cases rest with
    | nil =>
      obtain ⟨rfl, -⟩ := List.cons.inj hrest
      rwa [List.append_nil]
    | cons e'' rest => simp at hrest

/-- Local events are always allowed. -/
lemma append {new : List Event} (hnew : ∀ e ∈ new, e.isLocal = true) : Timely (events ++ new) := by
  intro before e after heq
  rcases eq_append_cons_cases heq with ⟨rest, hevents, -⟩ | ⟨rest, rfl, -⟩
  · exact h before e rest hevents
  · have he : e.isLocal = true := hnew e (by simp)
    cases e <;> trivial

end Timely

end Event

namespace Session

open Event (Settled Timely)

variable {β σ τ ℓ : Type}

/-- Local events are timely. -/
lemma Adds.timely {s s' : Session σ τ ℓ} (h : Adds Event.isLocal s s') (ht : Timely s.events) :
    Timely s'.events := by
  obtain ⟨new, hnew, hlocal⟩ := h
  rw [hnew]
  exact ht.append hlocal

/-- Where nothing is printed everything stays settled. -/
lemma Adds.settled {s s' : Session σ τ ℓ} (h : Adds Event.isSilent s s') (hs : Settled s.events) :
    Settled s'.events := by
  obtain ⟨new, hnew, hsilent⟩ := h
  rw [hnew]
  exact hs.append fun bytes hmem => by cases hsilent _ hmem

/-- A session whose events are timely and settled. -/
structure Ready (s : Session σ τ ℓ) : Prop where
  timely : Timely s.events
  settled : Settled s.events

namespace Ready

variable {s s' : Session σ τ ℓ} (h : Ready s)
include h

/-- Records leave a session ready. -/
lemma note (r : Record) : Ready (s.note r) where
  timely := (Adds.note rfl).timely h.timely
  settled := (Adds.note rfl).settled h.settled

/-- Records leave a session ready, however many. -/
lemma noteAll (rs : List Record) : Ready (s.noteAll rs) where
  timely := (Adds.noteAll fun _ _ => rfl).timely h.timely
  settled := (Adds.noteAll fun _ _ => rfl).settled h.settled

/-- The input may be read, and a session is ready afterwards. -/
lemma afterReading (input : Input) : Ready (s.afterReading input) := by
  have hasked : Ready (s.happen .asked) := by
    refine ⟨?_, (Adds.happen rfl).settled h.settled⟩
    rw [events_happen]
    exact h.timely.concat h.settled
  exact hasked.noteAll _

/-- The records of arguments leave a session ready. -/
lemma recording (args : ArgVector) : Ready (s.recording args) :=
  (h.noteAll _).note _

end Ready

section

variable [Sink σ]

/-- A flush is timely. -/
lemma timely_of_flush_eq {s s' : Session σ τ ℓ} {failure : Option IoError}
    (h : s.flush = (failure, s')) (ht : Timely s.events) : Timely s'.events := by
  have hadds : Adds Event.isLocal s s.flush.2 := Adds.flush fun _ => rfl
  rw [h] at hadds
  exact hadds.timely ht

/-- A flush that succeeds makes a session ready. -/
lemma ready_of_flush_eq {s s' : Session σ τ ℓ} (h : s.flush = (none, s')) (ht : Timely s.events) :
    Ready s' := by
  have hevents : s.flush.2.events = s.events ++ [.flushed s.flush.1.isNone] := events_happen _ _
  rw [h] at hevents
  refine ⟨timely_of_flush_eq h ht, ?_⟩
  rw [hevents]
  exact Event.settled_append_flushed s.events

/-- A prompt is timely. -/
lemma Ready.timely_prompt {s s' : Session σ τ ℓ} (h : Ready s) {wanted : Bool}
    {failure : Option IoError} (prompted : s.prompt wanted = (failure, s')) : Timely s'.events := by
  have hadds : Adds Event.isOfHandler s (s.prompt wanted).2 := Adds.prompt wanted
  rw [prompted] at hadds
  exact (hadds.mono fun _ => Event.isLocal_of_isOfHandler).timely h.timely

/-- A prompt that succeeds has been flushed. -/
lemma Ready.of_prompt_eq {s s' : Session σ τ ℓ} (h : Ready s) {wanted : Bool}
    (prompted : s.prompt wanted = (none, s')) : Ready s' := by
  have htimely : Timely s'.events := h.timely_prompt prompted
  rw [prompt] at prompted
  split at prompted
  · split at prompted
    · cases prompted
    · next s₁ hprinted =>
      have hadds : Adds Event.isOfHandler s s.printDirectory.2 := Adds.printDirectory
      rw [hprinted] at hadds
      have hlocal : Adds Event.isLocal s s₁ := hadds.mono fun _ => Event.isLocal_of_isOfHandler
      exact ready_of_flush_eq prompted (hlocal.timely h.timely)
  · cases prompted
    exact h

variable [Sink τ] [Launcher ℓ] [HasHandler β]

/-- A program is launched while everything is settled, right after the flush made for it. -/
lemma Ready.timely_runProgram {s : Session σ τ ℓ} (h : Ready s) (name : Bytes) (args : ArgVector) :
    Timely (s.runProgram name args).events := by
  obtain ⟨success, records, later, hevents, hlater⟩ := s.exists_events_runProgram name args
  have hflushed : Timely (s.events ++ .flushed success :: records.map .noted) := by
    refine h.timely.append fun e he => ?_
    rcases List.mem_cons.mp he with rfl | he
    · rfl
    · obtain ⟨r, -, rfl⟩ := List.mem_map.mp he
      rfl
  have hsettled : Settled (s.events ++ .flushed success :: records.map .noted) :=
    h.settled.append fun bytes hmem => by simp at hmem
  have hlaunched :=
    hflushed.concat (e := .launched args) ⟨hsettled, s.events, success, records, rfl⟩
  have hall := hlaunched.append hlater
  rw [List.append_assoc, List.singleton_append] at hall
  rwa [hevents]

/-- A command is timely: only programs are launched. -/
lemma Ready.timely_execute {s : Session σ τ ℓ} (h : Ready s) (table : Table β) (args : ArgVector) :
    Timely (s.execute table args).2.events := by
  rw [execute]
  cases args.command? with
  | none => exact h.timely
  | some name =>
    simp only
    cases table.builtin? name with
    | none => exact h.timely_runProgram name args
    | some b => exact (Adds.runBuiltin b args).timely (h.note _).timely

/-- A run that begins ready is timely throughout, and if it succeeds and the interpreter survives
it, everything is settled in the end. -/
lemma timely_run (table : Table β) (prompting : Bool) (input : Input) (s : Session σ τ ℓ)
    (h : Ready s) :
    Timely (s.run table prompting input).session.events ∧
      ((s.run table prompting input).failure = none →
        Launcher.departure? (s.run table prompting input).session.launcher = none →
        Settled (s.run table prompting input).session.events) := by
  revert h
  have hturn {i : Input} {s s' after : Session σ τ ℓ} {line : Bytes} {status : Status}
      (h : Ready s) (prompted : s.prompt prompting = (none, s'))
      (executed : (s'.afterReading i).executeLine table line = (status, after)) :
      Timely after.events := by
    have hexecute : Timely ((s'.afterReading i).executeLine table line).2.events :=
      (((h.of_prompt_eq prompted).afterReading i).recording (.ofLine line)).timely_execute table _
    rwa [executed] at hexecute
  refine run_induction table prompting (motive := fun _ s r => Ready s →
    Timely r.session.events ∧ (r.failure = none → Launcher.departure? r.session.launcher = none →
      Settled r.session.events)) ?_ ?_ ?_ input s
  · intro i s e j t hbreak h
    refine ⟨?_, fun hsuccess => by cases hsuccess⟩
    cases hbreak with
    | promptWrite wanted unwritten =>
      exact h.timely_prompt (prompt_of_unwritten wanted unwritten)
    | promptFlush wanted written unflushed =>
      exact h.timely_prompt (prompt_of_unflushed wanted written unflushed)
    | read prompted unread => exact ((h.of_prompt_eq prompted).afterReading i).timely
    | commandFlush prompted read executed alive unflushed =>
      exact timely_of_flush_eq unflushed (hturn h prompted executed)
  · intro i s j t hfinish h
    cases hfinish with
    | ended prompted ended =>
      have hready := ((h.of_prompt_eq prompted).afterReading i).note .endOfInput
      exact ⟨hready.timely, fun _ _ => hready.settled⟩
    | stopped prompted read executed alive flushed =>
      have hready := (ready_of_flush_eq flushed (hturn h prompted executed)).note .exitRequested
      exact ⟨hready.timely, fun _ _ => hready.settled⟩
    | departed prompted read executed dead =>
      refine ⟨hturn h prompted executed, fun _ halive => ?_⟩
      rw [dead] at halive
      cases halive
  · intro i s j t hproceeds ih h
    obtain ⟨prompted, read, executed, alive, flushed⟩ := hproceeds
    exact ih (ready_of_flush_eq flushed (hturn h prompted executed))

/-- The interpreter holds no output back.  Whenever it asks for a line, everything that the output
has accepted was accepted before a flush that succeeded, and so it is whenever a run that the
interpreter survives ends with success.  It is so whenever a program is launched, too, even if the
flush made for that launch fails; that flush comes right before the launch, but for records. -/
theorem run_output_settled (table : Table β) (prompting : Bool) (input : Input) (out : σ) (err : τ)
    (launcher : ℓ) (files : FileSystem) (v : Verbosity) :
    let r := (start out err launcher files v).run table prompting input
    (∀ before after, r.session.events = before ++ .asked :: after → Settled before) ∧
    (∀ before args after, r.session.events = before ++ .launched args :: after →
      Settled before ∧ Event.EndsInFlush before) ∧
    (r.failure = none → Launcher.departure? r.session.launcher = none →
      Settled r.session.events) := by
  have hstart : Ready (start out err launcher files v) := ⟨Event.timely_nil, Event.settled_nil⟩
  obtain ⟨htimely, hsettled⟩ := timely_run table prompting input _ hstart
  exact ⟨fun before after h => htimely before .asked after h,
    fun before args after h => htimely before (.launched args) after h, hsettled⟩

end

/-- The first flush fails, and it is the one made for a launch: everything is settled all the
same. -/
theorem run_output_settled_flush_failing :
    let s := start { LimitedSink.unlimited with failingFlush := some (1, .system .noSpace) }
      LimitedSink.unlimited (⟨[]⟩ : ScriptedLauncher) ⟨[], [], [], []⟩ .off
    (s.run Table.standard false (.ofBytes (utf8 "ls\n"))).session.events =
        [.asked, .flushed false] ++ .launched [utf8 "ls"] :: [.flushed true, .asked] ∧
      Settled [.asked, .flushed false] ∧ Event.EndsInFlush [.asked, .flushed false] := by
  intro s
  have hevents : (s.run Table.standard false (.ofBytes (utf8 "ls\n"))).session.events =
      [.asked, .flushed false] ++ .launched [utf8 "ls"] :: [.flushed true, .asked] := by
    subst s
    cbv
  exact ⟨hevents, (run_output_settled Table.standard false (.ofBytes (utf8 "ls\n")) _ _ _ _ _).2.1
    _ _ _ hevents⟩

end Session

end CommandShell
