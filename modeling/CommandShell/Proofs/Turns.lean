import CommandShell.Loop
import CommandShell.Proofs.LineCalls
import CommandShell.Sink.Limited
import Mathlib.Logic.Relation

/-!
# Turns of the loop

A turn of the loop prints the prompt, reads a line, executes it and flushes the output.  It can
break down, which is the failure of the loop (`Breakdown`); it can be the last one, which is a
success (`Finish`); or the next turn follows (`Proceeds`).  A run is a chain of turns, and
`Session.run_induction` is the induction on that chain.

What the commands do is no part of a breakdown.  The loop goes on after every command unless its
handler said that the loop is over (`StopsLoop`), whatever the launcher answered and whatever became
of the diagnostics.
-/

namespace CommandShell

variable {β σ τ ℓ : Type} [HasHandler β] [Sink σ] [Sink τ] [Launcher ℓ]

namespace Session

/-- A session after a line was asked for, with the records of reading it. -/
def afterReading (s : Session σ τ ℓ) (input : Input) : Session σ τ ℓ :=
  (s.happen .asked).noteAll input.readLine.records

/-- How a turn breaks down: why, and what is left of the input and of the session then. -/
inductive Breakdown (table : Table β) (prompting : Bool) (input : Input) (s : Session σ τ ℓ) :
    IoError → Input → Session σ τ ℓ → Prop
  /-- The prompt cannot be written. -/
  | promptWrite {e : IoError} {s' : Session σ τ ℓ} (wanted : prompting = true)
      (unwritten : s.printDirectory = (some e, s')) : Breakdown table prompting input s e input s'
  /-- The prompt cannot be flushed. -/
  | promptFlush {e : IoError} {s' s'' : Session σ τ ℓ} (wanted : prompting = true)
      (written : s.printDirectory = (none, s')) (unflushed : s'.flush = (some e, s'')) :
      Breakdown table prompting input s e input s''
  /-- The input cannot be read. -/
  | read {e : IoError} {s' : Session σ τ ℓ} (prompted : s.prompt prompting = (none, s'))
      (unread : input.readLine.result = .failed e) :
      Breakdown table prompting input s e input.readLine.input (s'.afterReading input)
  /-- The output cannot be flushed after a command, be it one that ends the loop. -/
  | commandFlush {e : IoError} {line : Bytes} {status : Status} {s' after s'' : Session σ τ ℓ}
      (prompted : s.prompt prompting = (none, s')) (read : input.readLine.result = .line line)
      (executed : (s'.afterReading input).executeLine table line = (status, after))
      (alive : Launcher.departure? after.launcher = none)
      (unflushed : after.flush = (some e, s'')) :
      Breakdown table prompting input s e input.readLine.input s''

/-- How a turn is the last one without breaking down. -/
inductive Finish (table : Table β) (prompting : Bool) (input : Input) (s : Session σ τ ℓ) :
    Input → Session σ τ ℓ → Prop
  /-- The input has ended. -/
  | ended {s' : Session σ τ ℓ} (prompted : s.prompt prompting = (none, s'))
      (ended : input.readLine.result = .ended) :
      Finish table prompting input s input.readLine.input
        ((s'.afterReading input).note .endOfInput)
  /-- A command has ended the loop. -/
  | stopped {line : Bytes} {s' after s'' : Session σ τ ℓ}
      (prompted : s.prompt prompting = (none, s')) (read : input.readLine.result = .line line)
      (executed : (s'.afterReading input).executeLine table line = (.stop, after))
      (alive : Launcher.departure? after.launcher = none) (flushed : after.flush = (none, s'')) :
      Finish table prompting input s input.readLine.input (s''.note .exitRequested)
  /-- The interpreter has departed: a signal has ended it, or it will never go on. -/
  | departed {line : Bytes} {status : Status} {departure : Departure} {s' after : Session σ τ ℓ}
      (prompted : s.prompt prompting = (none, s')) (read : input.readLine.result = .line line)
      (executed : (s'.afterReading input).executeLine table line = (status, after))
      (dead : Launcher.departure? after.launcher = some departure) :
      Finish table prompting input s input.readLine.input after

/-- A turn after which the next one follows: a line was read and executed, the output flushed. -/
inductive Proceeds (table : Table β) (prompting : Bool) :
    Input × Session σ τ ℓ → Input × Session σ τ ℓ → Prop
  | mk {input : Input} {line : Bytes} {s s' after s'' : Session σ τ ℓ}
      (prompted : s.prompt prompting = (none, s')) (read : input.readLine.result = .line line)
      (executed : (s'.afterReading input).executeLine table line = (.proceed, after))
      (alive : Launcher.departure? after.launcher = none) (flushed : after.flush = (none, s'')) :
      Proceeds table prompting (input, s) (input.readLine.input, s'')

/-- Some turns, each followed by the next. -/
def Reaches (table : Table β) (prompting : Bool) :
    Input × Session σ τ ℓ → Input × Session σ τ ℓ → Prop :=
  Relation.ReflTransGen (Proceeds table prompting)

variable {table : Table β} {prompting : Bool} {input : Input} {s : Session σ τ ℓ}

/-! ### Prompts that fail -/

omit [Sink τ] [Launcher ℓ] in
lemma prompt_of_unwritten {e : IoError} {s' : Session σ τ ℓ} (wanted : prompting = true)
    (unwritten : s.printDirectory = (some e, s')) : s.prompt prompting = (some e, s') := by
  rw [prompt, if_pos wanted, unwritten]

omit [Sink τ] [Launcher ℓ] in
lemma prompt_of_unflushed {e : IoError} {s' s'' : Session σ τ ℓ} (wanted : prompting = true)
    (written : s.printDirectory = (none, s')) (unflushed : s'.flush = (some e, s'')) :
    s.prompt prompting = (some e, s'') := by
  rw [prompt, if_pos wanted, written, ← unflushed]

/-! ### A run by its first turn -/

/-- If the prompt fails, the run is over. -/
lemma run_of_prompt_eq_some {e : IoError} {s' : Session σ τ ℓ}
    (h : s.prompt prompting = (some e, s')) :
    s.run table prompting input = ⟨some (.io e), input, s'⟩ := by
  rw [run, h]

/-- If the input cannot be read, the run is over. -/
lemma run_of_readLine_eq_failed {e : IoError} {s' : Session σ τ ℓ}
    (hp : s.prompt prompting = (none, s')) (hr : input.readLine.result = .failed e) :
    s.run table prompting input =
      ⟨some (.io e), input.readLine.input, s'.afterReading input⟩ := by
  rw [run, hp]
  simp only
  split
  · next e' h => rw [hr] at h; cases h; rfl
  · next h => rw [hr] at h; cases h
  · next h => rw [hr] at h; cases h

/-- If the input has ended, so has the run. -/
lemma run_of_readLine_eq_ended {s' : Session σ τ ℓ}
    (hp : s.prompt prompting = (none, s')) (hr : input.readLine.result = .ended) :
    s.run table prompting input =
      ⟨none, input.readLine.input, (s'.afterReading input).note .endOfInput⟩ := by
  rw [run, hp]
  simp only
  split
  · next h => rw [hr] at h; cases h
  · rfl
  · next h => rw [hr] at h; cases h

/-- If a line was read, the run goes on as its command and the flush after it say. -/
lemma run_of_readLine_eq_line {line : Bytes} {s' : Session σ τ ℓ}
    (hp : s.prompt prompting = (none, s')) (hr : input.readLine.result = .line line) :
    s.run table prompting input =
      match (s'.afterReading input).executeLine table line with
      | (status, after) =>
        if (Launcher.departure? after.launcher).isSome then ⟨none, input.readLine.input, after⟩
        else
          match after.flush with
          | (some e, flushed) => ⟨some (.io e), input.readLine.input, flushed⟩
          | (none, flushed) =>
            match status with
            | .stop => ⟨none, input.readLine.input, flushed.note .exitRequested⟩
            | .proceed => flushed.run table prompting input.readLine.input := by
  rw [run, hp]
  simp only
  split
  · next h => rw [hr] at h; cases h
  · next h => rw [hr] at h; cases h
  · next line' h => rw [hr] at h; cases h; rfl

/-- A breakdown of the first turn is the failure of the run, and nothing happens after it. -/
lemma Breakdown.run_eq {e : IoError} {j : Input} {t : Session σ τ ℓ}
    (h : Breakdown table prompting input s e j t) :
    s.run table prompting input = ⟨some (.io e), j, t⟩ := by
  cases h with
  | promptWrite wanted unwritten =>
    exact run_of_prompt_eq_some (prompt_of_unwritten wanted unwritten)
  | promptFlush wanted written unflushed =>
    exact run_of_prompt_eq_some (prompt_of_unflushed wanted written unflushed)
  | read prompted unread => exact run_of_readLine_eq_failed prompted unread
  | commandFlush prompted read executed alive unflushed =>
    rw [run_of_readLine_eq_line prompted read, executed]
    simp only [alive, unflushed, Option.isSome_none, Bool.false_eq_true, if_false]

/-- If the first turn is the last one without breaking down, the run succeeds. -/
lemma Finish.run_eq {j : Input} {t : Session σ τ ℓ} (h : Finish table prompting input s j t) :
    s.run table prompting input = ⟨none, j, t⟩ := by
  cases h with
  | ended prompted ended => exact run_of_readLine_eq_ended prompted ended
  | stopped prompted read executed alive flushed =>
    rw [run_of_readLine_eq_line prompted read, executed]
    simp only [alive, flushed, Option.isSome_none, Bool.false_eq_true, if_false]
  | departed prompted read executed dead =>
    rw [run_of_readLine_eq_line prompted read, executed]
    simp only [dead, Option.isSome_some, if_true]

/-- If the next turn follows the first, the run is that of the other turns. -/
lemma Proceeds.run_eq {m m' : Input × Session σ τ ℓ} (h : Proceeds table prompting m m') :
    m.2.run table prompting m.1 = m'.2.run table prompting m'.1 := by
  obtain ⟨prompted, read, executed, alive, flushed⟩ := h
  rw [run_of_readLine_eq_line prompted read, executed]
  simp only [alive, flushed, Option.isSome_none, Bool.false_eq_true, if_false]

/-- Each turn takes something from the input. -/
lemma Proceeds.remaining_lt {m m' : Input × Session σ τ ℓ} (h : Proceeds table prompting m m') :
    m'.1.remaining < m.1.remaining := by
  obtain ⟨-, read, -, -, -⟩ := h
  exact LineRead.remaining_readLine_lt read

/-- A turn breaks down, or is the last one, or the next one follows. -/
lemma turn_cases (table : Table β) (prompting : Bool) (input : Input) (s : Session σ τ ℓ) :
    (∃ e j t, Breakdown table prompting input s e j t) ∨
      (∃ j t, Finish table prompting input s j t) ∨
      ∃ m, Proceeds table prompting (input, s) m := by
  cases hp : s.prompt prompting with
  | mk failure s' =>
    cases failure with
    | some e =>
      rw [prompt] at hp
      split at hp
      · next wanted =>
        cases hd : s.printDirectory with
        | mk failure s'' =>
          rw [hd] at hp
          cases failure with
          | some e' =>
            exact Or.inl ⟨e', input, s'', Breakdown.promptWrite wanted hd⟩
          | none => exact Or.inl ⟨e, input, s', Breakdown.promptFlush wanted hd hp⟩
      · cases hp
    | none =>
      cases hr : input.readLine.result with
      | failed e => exact Or.inl ⟨e, _, _, Breakdown.read hp hr⟩
      | ended => exact Or.inr (Or.inl ⟨_, _, Finish.ended hp hr⟩)
      | line line =>
        cases hx : (s'.afterReading input).executeLine table line with
        | mk status after =>
          cases hk : Launcher.departure? after.launcher with
          | some departure => exact Or.inr (Or.inl ⟨_, _, Finish.departed hp hr hx hk⟩)
          | none =>
            cases hf : after.flush with
            | mk failure flushed =>
              cases failure with
              | some e => exact Or.inl ⟨e, _, _, Breakdown.commandFlush hp hr hx hk hf⟩
              | none =>
                cases status with
                | stop => exact Or.inr (Or.inl ⟨_, _, Finish.stopped hp hr hx hk hf⟩)
                | proceed => exact Or.inr (Or.inr ⟨_, Proceeds.mk hp hr hx hk hf⟩)

/-! ### Runs as chains of turns -/

/-- What holds of every breakdown and of every last turn, and of a run whenever it holds of the run
from the next turn on, holds of every run. -/
theorem run_induction (table : Table β) (prompting : Bool)
    {motive : Input → Session σ τ ℓ → Run σ τ ℓ → Prop}
    (breakdown : ∀ {i s e j t}, Breakdown table prompting i s e j t →
      motive i s ⟨some (.io e), j, t⟩)
    (finish : ∀ {i s j t}, Finish table prompting i s j t → motive i s ⟨none, j, t⟩)
    (proceeds : ∀ {i s j t}, Proceeds table prompting (i, s) (j, t) →
      motive j t (t.run table prompting j) → motive i s (t.run table prompting j))
    (input : Input) (s : Session σ τ ℓ) : motive input s (s.run table prompting input) := by
  -- Each turn leaves less of the input.
  induction hn : input.remaining using Nat.strongRecOn generalizing input s with
  | _ n ih =>
    rcases turn_cases table prompting input s with ⟨e, j, t, h⟩ | ⟨j, t, h⟩ | ⟨⟨j, t⟩, h⟩
    · rw [h.run_eq]
      exact breakdown h
    · rw [h.run_eq]
      exact finish h
    · have hlt : j.remaining < n := hn ▸ h.remaining_lt
      have hrun : s.run table prompting input = t.run table prompting j := h.run_eq
      rw [hrun]
      exact proceeds h (ih j.remaining hlt j t rfl)

/-- A run is that from any turn that it reaches. -/
lemma Reaches.run_eq {m m' : Input × Session σ τ ℓ} (h : Reaches table prompting m m') :
    m.2.run table prompting m.1 = m'.2.run table prompting m'.1 := by
  induction h with
  | refl => rfl
  | tail _ hstep ih => exact ih.trans hstep.run_eq

/-- A run reaches a turn that breaks down, or one that is the last without breaking down. -/
lemma exists_reaches_end (table : Table β) (prompting : Bool) (input : Input)
    (s : Session σ τ ℓ) :
    ∃ i u, Reaches table prompting (input, s) (i, u) ∧
      ((∃ e j t, Breakdown table prompting i u e j t) ∨
        ∃ j t, Finish table prompting i u j t) := by
  refine run_induction table prompting
    (motive := fun i s _ => ∃ i' u, Reaches table prompting (i, s) (i', u) ∧
      ((∃ e j t, Breakdown table prompting i' u e j t) ∨
        ∃ j t, Finish table prompting i' u j t)) ?_ ?_ ?_ input s
  · intro i s e j t h
    exact ⟨i, s, .refl, Or.inl ⟨e, j, t, h⟩⟩
  · intro i s j t h
    exact ⟨i, s, .refl, Or.inr ⟨j, t, h⟩⟩
  · rintro i s j t h ⟨i', u, hreach, hend⟩
    exact ⟨i', u, .head h hreach, hend⟩

/-! ### What ends the loop -/

/-- A session in which a line is executed, with the records of its arguments. -/
def recording (s : Session σ τ ℓ) (args : ArgVector) : Session σ τ ℓ :=
  (s.noteGrowth args).note (.arguments args)

/-- Arguments name a builtin command whose handler comes to the verdict that the loop is over. -/
def StopsLoop (table : Table β) (args : ArgVector) (s : Session σ τ ℓ) : Prop :=
  ∃ name b, args.command? = some name ∧ table.builtin? name = some b ∧
    ((HasHandler.handler b args).run (s.note (.builtin (Text.display name)))).1 = .ok .stop

/-- A command ends the loop only if it is a builtin one whose handler says so. A handler that fails
does not, and neither does any program, whatever comes of launching it. -/
lemma execute_fst_eq_stop_iff (table : Table β) (args : ArgVector) (s : Session σ τ ℓ) :
    (s.execute table args).1 = .stop ↔ StopsLoop table args s := by
  rw [execute]
  cases hname : args.command? with
  | none => simp [StopsLoop, hname]
  | some name =>
    cases hb : table.builtin? name with
    | none => simp [StopsLoop, hname, hb]
    | some b =>
      simp only [StopsLoop, hname, Option.some.injEq, exists_and_left, exists_eq_left', hb,
        runBuiltin]
      cases (HasHandler.handler b args).run (s.note (.builtin (Text.display name))) with
      | mk verdict s' =>
        cases verdict with
        | ok status => simp
        | error f => simp

/-- Unless the handler of a builtin command says that the loop is over, the next turn follows once
the output is flushed. -/
lemma proceeds_of_not_stopsLoop {line : Bytes} {status : Status} {s' after t : Session σ τ ℓ}
    (prompted : s.prompt prompting = (none, s')) (read : input.readLine.result = .line line)
    (executed : (s'.afterReading input).executeLine table line = (status, after))
    (alive : Launcher.departure? after.launcher = none) (flushed : after.flush = (none, t))
    (hstop : ¬ StopsLoop table (.ofLine line) ((s'.afterReading input).recording (.ofLine line))) :
    Proceeds table prompting (input, s) (input.readLine.input, t) := by
  cases status with
  | proceed => exact Proceeds.mk prompted read executed alive flushed
  | stop =>
    refine absurd ((execute_fst_eq_stop_iff _ _ _).mp ?_) hstop
    exact congrArg Prod.fst executed

/-- A run fails if and only if it reaches a turn that breaks down, and with that it is over.  Every
other turn that reads a line is followed by the next one, unless the line names a builtin command
whose handler says that the loop is over, or the interpreter has departed: what else comes of a
command, of a launch, of the flush before it and of the diagnostics does not count.  An input that
cannot be read has failed for another reason than an interruption. -/
theorem run_failure_iff (table : Table β) (prompting : Bool) (input : Input)
    (s : Session σ τ ℓ) :
    ((s.run table prompting input).failure ≠ none ↔
      ∃ i u e j t, Reaches table prompting (input, s) (i, u) ∧
        Breakdown table prompting i u e j t) ∧
    (∀ i u e j t, Reaches table prompting (input, s) (i, u) →
      Breakdown table prompting i u e j t →
        s.run table prompting input = ⟨some (.io e), j, t⟩) ∧
    (∀ i u line status u' after t, Reaches table prompting (input, s) (i, u) →
      u.prompt prompting = (none, u') → i.readLine.result = .line line →
      (u'.afterReading i).executeLine table line = (status, after) →
      Launcher.departure? after.launcher = none → after.flush = (none, t) →
      ¬ StopsLoop table (.ofLine line) ((u'.afterReading i).recording (.ofLine line)) →
        Reaches table prompting (input, s) (i.readLine.input, t)) ∧
    (∀ (i : Input) (e : IoError), i.readLine.result = .failed e →
      .failed e ∈ i.arrivals ∧ e.isInterruption = false) := by
  refine ⟨⟨?_, ?_⟩, ?_, ?_, ?_⟩
  · intro hfail
    obtain ⟨i, u, hreach, ⟨e, j, t, hbreak⟩ | ⟨j, t, hfinish⟩⟩ :=
      exists_reaches_end table prompting input s
    · exact ⟨i, u, e, j, t, hreach, hbreak⟩
    · have hrun : s.run table prompting input = ⟨none, j, t⟩ :=
        hreach.run_eq.trans hfinish.run_eq
      exact absurd (by rw [hrun]) hfail
  · rintro ⟨i, u, e, j, t, hreach, hbreak⟩ hnone
    have hrun : s.run table prompting input = ⟨some (.io e), j, t⟩ :=
      hreach.run_eq.trans hbreak.run_eq
    rw [hrun] at hnone
    cases hnone
  · intro i u e j t hreach hbreak
    exact hreach.run_eq.trans hbreak.run_eq
  · intro i u line status u' after t hreach prompted read executed alive flushed hstop
    exact hreach.tail (proceeds_of_not_stopsLoop prompted read executed alive flushed hstop)
  · intro i e hfailed
    have hmem : .failed e ∈ i.arrivals := i.failed_mem_arrivals hfailed
    exact ⟨hmem, InputEvent.isInterruption_of_failed_mem hmem⟩

/-- When the output cannot be flushed after the command that ends the loop, the run fails. -/
theorem run_failure_flush_after_exit :
    ((start { LimitedSink.unlimited with failingFlush := some (1, .system .noSpace) }
        LimitedSink.unlimited (⟨[]⟩ : ScriptedLauncher) ⟨[], [], [], []⟩ .off).run
      Table.standard false (.ofBytes (utf8 "exit\n"))).failure =
        some (.io (.system .noSpace)) := by
  obtain ⟨hresult, hrecords, -⟩ := (Input.ofBytes (utf8 "exit\n")).readLine_eq
  have hread : (Input.ofBytes (utf8 "exit\n")).readLine.result = .line (utf8 "exit") :=
    hresult.trans (by decide)
  have hquiet : (Input.ofBytes (utf8 "exit\n")).readLine.records = [] :=
    hrecords.trans (by decide)
  have hname : (ArgVector.ofLine (utf8 "exit")).command? = some (utf8 "exit") := by decide
  have hbuiltin : Table.standard.builtin? (utf8 "exit") = some .exit := by decide
  have hexecuted (s : Session LimitedSink LimitedSink ScriptedLauncher) (h : s.verbosity = .off) :
      (s.afterReading (.ofBytes (utf8 "exit\n"))).executeLine Table.standard (utf8 "exit") =
        (.stop, s.happen .asked) := by
    obtain ⟨out, err, launcher, files, verbosity, history⟩ := s
    cases h
    rw [afterReading, hquiet, executeLine, execute, hname]
    simp only [hbuiltin]
    rfl
  exact congrArg Run.failure ((run_failure_iff _ _ _ _).2.1 _ _ _ _ _ .refl
    (Breakdown.commandFlush rfl hread (hexecuted _ rfl) rfl rfl))

end Session

end CommandShell
