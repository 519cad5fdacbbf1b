import CommandShell.Proofs.Account
import CommandShell.Proofs.History
import Mathlib

/-!
# Where commands go

A run executes one line after the other.  Its executions (`Session.executions`) are those of the
turns that it reaches: the line, the session just before its command and just after it, and whether
the loop goes on.  A run goes on from an execution if the command did not end the loop, the
interpreter has survived it and the output was flushed (`Execution.continuation?`).

Each command goes one of three ways (`Routed`): without arguments nothing happens; the first entry
of the table with its name has its handler run; and with a name of no entry the arguments go to the
launcher as they are.  So the launches of a run can be read off its executions
(`Session.run_launches_eq_filter`).

Beside its executions a run does nothing but write, flush, read and record.  A relation that is kept
by these acts and by each execution is kept by the run (`Session.KeptAround.run`).
-/

namespace CommandShell

/-! ### Tables -/

namespace Table

variable {β : Type}

/-- The first entry of a name is the one that counts. -/
lemma builtin?_eq_some_iff {table : Table β} {name : Bytes} {b : β} :
    table.builtin? name = some b ↔ ∃ (earlier later : Table β) (n : String),
      table = earlier ++ (n, b) :: later ∧ (∀ e ∈ earlier, utf8 e.1 ≠ name) ∧ utf8 n = name := by
  rw [builtin?, Option.map_eq_some_iff]
  constructor
  · rintro ⟨⟨n, b⟩, hfind, rfl⟩
    obtain ⟨hname, earlier, later, rfl, hearlier⟩ := List.find?_eq_some_iff_append.mp hfind
    exact ⟨earlier, later, n, rfl, by simpa using hearlier, by simpa using hname⟩
  · rintro ⟨earlier, later, n, rfl, hearlier, hname⟩
    refine ⟨(n, b), List.find?_eq_some_iff_append.mpr ⟨by simpa using hname, ?_⟩, rfl⟩
    exact ⟨earlier, later, rfl, by simpa using hearlier⟩

/-- Arguments with a name that no entry of the table has, byte for byte. -/
def isExternal (table : Table β) (args : ArgVector) : Bool :=
  match args.command? with
  | none => false
  | some name => table.all fun entry => utf8 entry.1 ≠ name

/-- A name that no entry has is looked up in vain. -/
lemma isExternal_iff (table : Table β) (args : ArgVector) :
    table.isExternal args = true ↔
      ∃ name, args.command? = some name ∧ table.builtin? name = none := by
  cases hname : args.command? with
  | none => simp [isExternal, hname]
  | some name => simp [isExternal, hname, builtin?]

end Table

/-! ### Executions -/

/-- The execution of a line. -/
structure Execution (σ τ ℓ : Type) where
  /-- The line. -/
  line : Bytes
  /-- The session just before its command. -/
  before : Session σ τ ℓ
  /-- Whether the loop goes on. -/
  status : Status
  /-- The session just after its command. -/
  after : Session σ τ ℓ

namespace Execution

variable {σ τ ℓ : Type}

/-- The arguments of the line. -/
def args (x : Execution σ τ ℓ) : ArgVector :=
  .ofLine x.line

variable [Sink σ] [Launcher ℓ]

/-- The session in which the next turn begins, if there is one. -/
def continuation? (x : Execution σ τ ℓ) : Option (Session σ τ ℓ) :=
  if (Launcher.departure? x.after.launcher).isSome then none
  else
    match x.after.flush, x.status with
    | (none, flushed), .proceed => some flushed
    | _, _ => none

/-- The next turn begins after a flush, unless the command has ended the loop or the interpreter. -/
lemma continuation?_eq_some_iff {x : Execution σ τ ℓ} {t : Session σ τ ℓ} :
    x.continuation? = some t ↔
      Launcher.departure? x.after.launcher = none ∧ x.after.flush = (none, t) ∧
        x.status = .proceed := by
  rw [continuation?]
  cases hk : Launcher.departure? x.after.launcher with
  | some signal => simp
  | none =>
    rcases hf : x.after.flush with ⟨failure | failure, t'⟩ <;> cases hs : x.status <;> simp

end Execution

namespace Session

variable {β σ τ ℓ : Type} [HasHandler β] [Sink σ] [Sink τ] [Launcher ℓ]

/-- The execution of a turn, if the turn comes to that. -/
def execution? (table : Table β) (prompting : Bool) (input : Input) (s : Session σ τ ℓ) :
    Option (Execution σ τ ℓ) :=
  match s.prompt prompting, input.readLine.result with
  | (none, s'), .line line =>
    let before := (s'.afterReading input).recording (.ofLine line)
    match before.execute table (.ofLine line) with
    | (status, after) => some ⟨line, before, status, after⟩
  | _, _ => none

variable {table : Table β} {prompting : Bool} {input : Input} {s : Session σ τ ℓ}

/-- A turn executes the line that it reads after its prompt. -/
lemma execution?_eq_some_iff {x : Execution σ τ ℓ} :
    s.execution? table prompting input = some x ↔
      ∃ s', s.prompt prompting = (none, s') ∧ input.readLine.result = .line x.line ∧
        x.before = (s'.afterReading input).recording x.args ∧
        x.before.execute table x.args = (x.status, x.after) := by
  obtain ⟨line, before, status, after⟩ := x
  rw [execution?]
  rcases s.prompt prompting with ⟨failure | failure, s'⟩
  · cases input.readLine.result with
    | line line' =>
      simp only [Option.some.injEq, Execution.mk.injEq, Execution.args, Prod.mk.injEq, true_and,
        exists_eq_left', LineResult.line.injEq]
      constructor
      · rintro ⟨rfl, rfl, rfl, rfl⟩
        exact ⟨rfl, rfl, rfl⟩
      · rintro ⟨rfl, rfl, h⟩
        simp [h]
    | ended => simp
    | failed e => simp
  · simp

/-- The executions of a run, in order. -/
def executions (table : Table β) (prompting : Bool) (input : Input) (s : Session σ τ ℓ) :
    List (Execution σ τ ℓ) :=
  match _h : s.execution? table prompting input with
  | none => []
  | some x =>
    x ::
      match x.continuation? with
      | none => []
      | some t => t.executions table prompting input.readLine.input
termination_by input.remaining
decreasing_by
  obtain ⟨_, _, hread, _⟩ := execution?_eq_some_iff.mp _h
  exact LineRead.remaining_readLine_lt hread

/-- The next turn follows from an execution that has a continuation. -/
lemma proceeds_iff {m : Input × Session σ τ ℓ} :
    Proceeds table prompting (input, s) m ↔ ∃ x, s.execution? table prompting input = some x ∧
      x.continuation? = some m.2 ∧ m.1 = input.readLine.input := by
  constructor
  · rintro ⟨prompted, read, executed, alive, flushed⟩
    refine ⟨⟨_, _, _, _⟩, execution?_eq_some_iff.mpr ⟨_, prompted, read, rfl, executed⟩, ?_, rfl⟩
    exact Execution.continuation?_eq_some_iff.mpr ⟨alive, flushed, rfl⟩
  · rintro ⟨x, hx, hnext, hinput⟩
    obtain ⟨s', prompted, read, hbefore, executed⟩ := execution?_eq_some_iff.mp hx
    obtain ⟨alive, flushed, hstatus⟩ := Execution.continuation?_eq_some_iff.mp hnext
    rw [hbefore, hstatus] at executed
    obtain ⟨j, t⟩ := m
    cases hinput
    exact Proceeds.mk prompted read executed alive flushed

/-! ### Around the command of a turn -/

section

variable {R : Session σ τ ℓ → Session σ τ ℓ → Prop} {x : Execution σ τ ℓ}

/-- Before its command a turn comes to the session of its execution. -/
lemma KeptAround.before (h : KeptAround R) (hx : s.execution? table prompting input = some x) :
    R s x.before := by
  obtain ⟨s', prompted, -, hbefore, -⟩ := execution?_eq_some_iff.mp hx
  rw [hbefore]
  exact h.trans (h.of_prompt_eq prompted) (h.trans (h.afterReading s' input) (h.recording _ _))

/-- A turn without an execution ends the run.  If that is a success, the input has ended. -/
lemma run_of_execution?_eq_none (hnone : s.execution? table prompting input = none) :
    (∀ {R : Session σ τ ℓ → Session σ τ ℓ → Prop}, KeptAround R →
      R s (s.run table prompting input).session) ∧
      ((s.run table prompting input).failure = none → input.readLine.result = .ended) := by
  have habsurd {line : Bytes} {status : Status} {s' after : Session σ τ ℓ}
      (prompted : s.prompt prompting = (none, s')) (read : input.readLine.result = .line line)
      (executed : (s'.afterReading input).executeLine table line = (status, after)) : False := by
    have hsome : s.execution? table prompting input = some ⟨line, _, status, after⟩ :=
      execution?_eq_some_iff.mpr ⟨s', prompted, read, rfl, executed⟩
    rw [hnone] at hsome
    cases hsome
  rcases turn_cases table prompting input s with ⟨e, j, t, hturn⟩ | ⟨j, t, hturn⟩ | ⟨m, hturn⟩
  · rw [hturn.run_eq]
    refine ⟨fun h => ?_, fun hfailure => by cases hfailure⟩
    cases hturn with
    | promptWrite wanted unwritten => exact h.of_prompt_eq (prompt_of_unwritten wanted unwritten)
    | promptFlush wanted written unflushed =>
      exact h.of_prompt_eq (prompt_of_unflushed wanted written unflushed)
    | read prompted unread => exact h.trans (h.of_prompt_eq prompted) (h.afterReading _ input)
    | commandFlush prompted read executed alive unflushed =>
      exact (habsurd prompted read executed).elim
  · rw [hturn.run_eq]
    cases hturn with
    | ended prompted ended =>
      refine ⟨fun h => ?_, fun _ => ended⟩
      exact h.trans (h.of_prompt_eq prompted)
        (h.trans (h.afterReading _ input) (h.note _ _ Level.noConfusion))
    | stopped prompted read executed alive flushed => exact (habsurd prompted read executed).elim
    | departed prompted read executed dead => exact (habsurd prompted read executed).elim
  · obtain ⟨prompted, read, executed, -, -⟩ := hturn
    exact (habsurd prompted read executed).elim

/-- An execution without a continuation is the last one of the run.  If the run is a success that
the interpreter survives, the command has ended the loop. -/
lemma run_of_continuation?_eq_none (hx : s.execution? table prompting input = some x)
    (hlast : x.continuation? = none) :
    (∀ {R : Session σ τ ℓ → Session σ τ ℓ → Prop}, KeptAround R →
      R x.after (s.run table prompting input).session) ∧
      ((s.run table prompting input).failure = none →
        Launcher.departure? (s.run table prompting input).session.launcher = none →
        x.status = .stop) := by
  obtain ⟨s', prompted, read, hbefore, executed⟩ := execution?_eq_some_iff.mp hx
  rw [hbefore] at executed
  change (s'.afterReading input).executeLine table x.line = (x.status, x.after) at executed
  have hrun : s.run table prompting input = _ := run_of_readLine_eq_line prompted read
  rw [executed] at hrun
  rw [Execution.continuation?] at hlast
  cases hk : Launcher.departure? x.after.launcher with
  | some signal =>
    simp only [hk, Option.isSome_some, if_true] at hrun
    rw [hrun]
    exact ⟨fun h => h.refl _, fun _ halive => by rw [hk] at halive; cases halive⟩
  | none =>
    simp only [hk, Option.isSome_none, Bool.false_eq_true, if_false] at hrun hlast
    cases hf : x.after.flush with
    | mk failure flushed =>
      rw [hf] at hrun hlast
      cases failure with
      | some e =>
        simp only at hrun
        rw [hrun]
        exact ⟨fun h => h.of_flush_eq hf, fun hfailure => by cases hfailure⟩
      | none =>
        cases hs : x.status with
        | proceed => simp [hs] at hlast
        | stop =>
          simp only [hs] at hrun
          rw [hrun]
          refine ⟨fun h => ?_, fun _ _ => rfl⟩
          exact h.trans (h.of_flush_eq hf) (h.note _ _ Level.noConfusion)

/-- Where an execution has a continuation, the run goes on from there. -/
lemma run_of_continuation?_eq_some {t : Session σ τ ℓ}
    (hx : s.execution? table prompting input = some x) (hnext : x.continuation? = some t) :
    s.run table prompting input = t.run table prompting input.readLine.input ∧
      ∀ {R : Session σ τ ℓ → Session σ τ ℓ → Prop}, KeptAround R → R x.after t := by
  have hstep : Proceeds table prompting (input, s) (input.readLine.input, t) :=
    proceeds_iff.mpr ⟨x, hx, hnext, rfl⟩
  obtain ⟨-, flushed, -⟩ := Execution.continuation?_eq_some_iff.mp hnext
  exact ⟨hstep.run_eq, fun h => h.of_flush_eq flushed⟩

end

omit [HasHandler β] [Sink τ] [Launcher ℓ] in
/-- Around commands nothing is launched. -/
lemma keptAround_launches :
    KeptAround fun s s' : Session σ τ ℓ => s'.launches = s.launches where
  refl _ := rfl
  trans h h' := h'.trans h
  print s bytes := (Adds.print (fun _ => rfl) bytes).launches_eq
  flush s := (Adds.flush fun _ => rfl).launches_eq
  asked s := by simp [launches, Event.launched?]
  note s r _ := (Adds.note rfl).launches_eq

end Session

/-! ### Ways of commands -/

/-- Where the command of an execution goes, and what comes of it. -/
structure Routed {β σ τ ℓ : Type} [HasHandler β] [Sink σ] [Sink τ] [Launcher ℓ] (table : Table β)
    (x : Execution σ τ ℓ) : Prop where
  /-- Without arguments nothing happens at all. -/
  nothing : x.args = [] → x.status = .proceed ∧ x.after = x.before
  /-- The first entry of the name has its handler run once, on all arguments.  The verdict says
  whether the loop goes on, a failure is reported and the loop goes on; nothing is launched. -/
  builtin : ∀ (earlier later : Table β) (name : String) (b : β),
    table = earlier ++ (name, b) :: later → (∀ e ∈ earlier, utf8 e.1 ≠ utf8 name) →
    x.args.command? = some (utf8 name) →
    ∃ verdict t,
      (HasHandler.handler b x.args).run
        (x.before.note (.builtin (Text.display (utf8 name)))) = (verdict, t) ∧
      (match verdict with
        | .ok status => x.status = status ∧ x.after = t
        | .error f => x.status = .proceed ∧ x.after = t.report f.message) ∧
      x.after.launches = x.before.launches
  /-- With a name of no entry all arguments are launched once, and whatever comes of it, the loop
  goes on. -/
  program : table.isExternal x.args = true →
    x.status = .proceed ∧ x.after.launches = x.before.launches ++ [x.args]
  /-- Only a handler can end the loop. -/
  stop : x.status = .stop ↔ Session.StopsLoop table x.args x.before

namespace Session

variable {β σ τ ℓ : Type} [HasHandler β] [Sink σ] [Sink τ] [Launcher ℓ]
variable {table : Table β} {prompting : Bool} {input : Input} {s : Session σ τ ℓ}
  {x : Execution σ τ ℓ}

/-- Executing a command is going one of the three ways. -/
lemma routed_of_execute_eq (h : x.before.execute table x.args = (x.status, x.after)) :
    Routed table x where
  nothing hargs := by
    rw [execute, hargs] at h
    obtain ⟨hstatus, hafter⟩ := Prod.mk.inj h
    exact ⟨hstatus.symm, hafter.symm⟩
  builtin earlier later name b entry first hname := by
    have hfirst : table.builtin? (utf8 name) = some b :=
      Table.builtin?_eq_some_iff.mpr ⟨earlier, later, name, entry, first, rfl⟩
    simp only [execute, hname, hfirst] at h
    have hlaunches : x.after.launches = x.before.launches := by
      have hadds : Adds Event.isLocal (x.before.note (.builtin (Text.display (utf8 name))))
          ((x.before.note (.builtin (Text.display (utf8 name)))).runBuiltin b x.args).2 :=
        Adds.runBuiltin b x.args
      rw [h] at hadds
      exact hadds.launches_eq.trans (Adds.note rfl).launches_eq
    rw [runBuiltin] at h
    split at h
    · next status t heq =>
      obtain ⟨hstatus, hafter⟩ := Prod.mk.inj h
      exact ⟨.ok status, t, heq, ⟨hstatus.symm, hafter.symm⟩, hlaunches⟩
    · next f t heq =>
      obtain ⟨hstatus, hafter⟩ := Prod.mk.inj h
      exact ⟨.error f, t, heq, ⟨hstatus.symm, hafter.symm⟩, hlaunches⟩
  program hexternal := by
    obtain ⟨name, hname, hnone⟩ := (table.isExternal_iff x.args).mp hexternal
    simp only [execute, hname, hnone] at h
    obtain ⟨hstatus, hafter⟩ := Prod.mk.inj h
    exact ⟨hstatus.symm, hafter ▸ launches_runProgram x.before name x.args⟩
  stop := by
    rw [← execute_fst_eq_stop_iff, h]

/-- The execution of a turn goes one of the three ways. -/
lemma routed_of_execution? (h : s.execution? table prompting input = some x) : Routed table x := by
  obtain ⟨-, -, -, -, executed⟩ := execution?_eq_some_iff.mp h
  exact routed_of_execute_eq executed

end Session

namespace Routed

variable {β σ τ ℓ : Type} [HasHandler β] [Sink σ] [Sink τ] [Launcher ℓ] {table : Table β}
  {x : Execution σ τ ℓ}

/-- A command launches its arguments if they name no entry of the table, and nothing otherwise. -/
lemma launches_eq (h : Routed table x) :
    x.after.launches = x.before.launches ++ [x.args].filter table.isExternal := by
  cases hname : x.args.command? with
  | none =>
    have hargs : x.args = [] := List.head?_eq_none_iff.mp hname
    rw [(h.nothing hargs).2, hargs]
    simp [Table.isExternal, ArgVector.command?]
  | some name =>
    cases hb : table.builtin? name with
    | none =>
      have hexternal : table.isExternal x.args = true :=
        (table.isExternal_iff x.args).mpr ⟨name, hname, hb⟩
      rw [(h.program hexternal).2, List.filter_singleton, hexternal]
      rfl
    | some b =>
      obtain ⟨earlier, later, n, entry, first, rfl⟩ := Table.builtin?_eq_some_iff.mp hb
      obtain ⟨-, -, -, -, hlaunches⟩ := h.builtin earlier later n b entry first hname
      have hinternal : table.isExternal x.args = false := by
        rw [← Bool.not_eq_true, table.isExternal_iff]
        rintro ⟨name, hname', hnone⟩
        rw [hname] at hname'
        cases hname'
        rw [hb] at hnone
        cases hnone
      rw [hlaunches, List.filter_singleton, hinternal]
      simp

end Routed

namespace Session

variable {β σ τ ℓ : Type} [HasHandler β] [Sink σ] [Sink τ] [Launcher ℓ]
variable {table : Table β} {prompting : Bool} {input : Input} {s : Session σ τ ℓ}
  {x : Execution σ τ ℓ}

/-! ### Executions of a run -/

/-- What holds where a turn executes nothing, where its execution is the last one, and where others
follow if it holds of them, holds of the executions of every run. -/
theorem executions_induction (table : Table β) (prompting : Bool)
    {motive : Input → Session σ τ ℓ → List (Execution σ τ ℓ) → Prop}
    (idle : ∀ {i s}, s.execution? table prompting i = none → motive i s [])
    (last : ∀ {i s x}, s.execution? table prompting i = some x → x.continuation? = none →
      motive i s [x])
    (more : ∀ {i s x t}, s.execution? table prompting i = some x → x.continuation? = some t →
      motive i.readLine.input t (t.executions table prompting i.readLine.input) →
      motive i s (x :: t.executions table prompting i.readLine.input))
    (input : Input) (s : Session σ τ ℓ) : motive input s (s.executions table prompting input) := by
  fun_induction executions table prompting input s with
  | case1 input s h => exact idle h
  | case2 input s x h ih =>
    cases hnext : x.continuation? with
    | none => exact last h hnext
    | some t => exact more h hnext (ih t)

/-- The turns that are reached are the first one and those reached from the one that follows it. -/
lemma Reaches.eq_or_of_execution? {m : Input × Session σ τ ℓ}
    (h : Reaches table prompting (input, s) m) (hx : s.execution? table prompting input = some x) :
    m = (input, s) ∨ ∃ t, x.continuation? = some t ∧
      Reaches table prompting (input.readLine.input, t) m := by
  rcases h.cases_head with rfl | ⟨⟨j, t⟩, hstep, hrest⟩
  · exact Or.inl rfl
  · obtain ⟨y, hy, hnext, hinput⟩ := proceeds_iff.mp hstep
    rw [hx] at hy
    cases hy
    cases hinput
    exact Or.inr ⟨t, hnext, hrest⟩

/-- The executions of a run are those of the turns that it reaches. -/
lemma mem_executions_iff :
    x ∈ s.executions table prompting input ↔ ∃ i u,
      Reaches table prompting (input, s) (i, u) ∧ u.execution? table prompting i = some x := by
  refine executions_induction table prompting (motive := fun input s xs => x ∈ xs ↔ ∃ i u,
    Reaches table prompting (input, s) (i, u) ∧ u.execution? table prompting i = some x) ?_ ?_ ?_
    input s
  · intro i s h
    refine ⟨fun hx => absurd hx List.not_mem_nil, ?_⟩
    rintro ⟨i', u, hreach, hx⟩
    rcases hreach.cases_head with heq | ⟨m, hstep, -⟩
    · cases heq
      rw [h] at hx
      cases hx
    · obtain ⟨y, hy, -⟩ := proceeds_iff.mp hstep
      rw [h] at hy
      cases hy
  · intro i s y hy hlast
    rw [List.mem_singleton]
    constructor
    · rintro rfl
      exact ⟨i, s, .refl, hy⟩
    · rintro ⟨i', u, hreach, hx⟩
      rcases hreach.eq_or_of_execution? hy with heq | ⟨t, hnext, -⟩
      · cases heq
        rw [hy] at hx
        exact (Option.some.inj hx).symm
      · rw [hlast] at hnext
        cases hnext
  · intro i s y t hy hnext ih
    rw [List.mem_cons, ih]
    constructor
    · rintro (rfl | ⟨i', u, hreach, hx⟩)
      · exact ⟨i, s, .refl, hy⟩
      · exact ⟨i', u, .head (proceeds_iff.mpr ⟨y, hy, hnext, rfl⟩) hreach, hx⟩
    · rintro ⟨i', u, hreach, hx⟩
      rcases hreach.eq_or_of_execution? hy with heq | ⟨t', hnext', hrest⟩
      · cases heq
        rw [hy] at hx
        exact Or.inl (Option.some.inj hx).symm
      · rw [hnext] at hnext'
        cases hnext'
        exact Or.inr ⟨i', u, hrest, hx⟩

/-- Each execution goes one of the three ways. -/
lemma routed_of_mem_executions (h : x ∈ s.executions table prompting input) : Routed table x := by
  obtain ⟨i, u, -, hx⟩ := mem_executions_iff.mp h
  exact routed_of_execution? hx

/-- What is kept around commands, and by each command of a run, is kept by the run. -/
theorem KeptAround.run {R : Session σ τ ℓ → Session σ τ ℓ → Prop} (h : KeptAround R)
    (hcommands : ∀ x ∈ s.executions table prompting input, R x.before x.after) :
    R s (s.run table prompting input).session := by
  revert hcommands
  refine executions_induction table prompting (motive := fun input s xs =>
    (∀ x ∈ xs, R x.before x.after) → R s (s.run table prompting input).session) ?_ ?_ ?_ input s
  · exact fun hnone _ => (run_of_execution?_eq_none hnone).1 h
  · intro i s x hx hlast hcommands
    have hcommand : R x.before x.after := hcommands x (List.mem_singleton_self x)
    exact h.trans (h.trans (h.before hx) hcommand) ((run_of_continuation?_eq_none hx hlast).1 h)
  · intro i s x t hx hnext ih hcommands
    obtain ⟨hcommand, hrest⟩ := List.forall_mem_cons.mp hcommands
    obtain ⟨hrun, hflush⟩ := run_of_continuation?_eq_some hx hnext
    rw [hrun]
    exact h.trans (h.trans (h.trans (h.before hx) hcommand) (hflush h)) (ih hrest)

/-- The launches of a run are those of its executions. -/
lemma launches_run (table : Table β) (prompting : Bool) (input : Input) (s : Session σ τ ℓ) :
    (s.run table prompting input).session.launches =
      s.launches ++ ((s.executions table prompting input).map Execution.args).filter
        table.isExternal := by
  have hfirst {i : Input} {s : Session σ τ ℓ} {x : Execution σ τ ℓ}
      (hx : s.execution? table prompting i = some x) :
      x.after.launches = s.launches ++ [x.args].filter table.isExternal := by
    rw [(routed_of_execution? hx).launches_eq, keptAround_launches.before hx]
  refine executions_induction table prompting (motive := fun input s xs =>
    (s.run table prompting input).session.launches =
      s.launches ++ (xs.map Execution.args).filter table.isExternal) ?_ ?_ ?_ input s
  · intro i s h
    rw [(run_of_execution?_eq_none h).1 keptAround_launches, List.map_nil, List.filter_nil,
      List.append_nil]
  · intro i s x hx hlast
    rw [(run_of_continuation?_eq_none hx hlast).1 keptAround_launches, hfirst hx,
      List.map_singleton]
  · intro i s x t hx hnext ih
    obtain ⟨hrun, hflush⟩ := run_of_continuation?_eq_some hx hnext
    rw [hrun, ih, hflush keptAround_launches, hfirst hx, List.append_assoc,
      ← List.filter_append, List.map_cons, List.singleton_append]

/-- The first line of the input is that of the first execution. -/
lemma supply_of_execution? (h : s.execution? table prompting input = some x) :
    (Supply.ofArrivals input.arrivals).lines =
        x.line :: (Supply.ofArrivals input.readLine.input.arrivals).lines ∧
      (Supply.ofArrivals input.arrivals).failure =
        (Supply.ofArrivals input.readLine.input.arrivals).failure := by
  obtain ⟨-, -, read, -⟩ := execution?_eq_some_iff.mp h
  obtain ⟨hlines, -, hfailure, -⟩ := Input.supply_of_result_eq_line read
  exact ⟨hlines, hfailure⟩

/-- The lines that are executed are the first ones of the input. -/
lemma lines_executions_prefix (table : Table β) (prompting : Bool) (input : Input)
    (s : Session σ τ ℓ) :
    (s.executions table prompting input).map Execution.line <+:
      (Supply.ofArrivals input.arrivals).lines := by
  refine executions_induction table prompting (motive := fun input _ xs =>
    xs.map Execution.line <+: (Supply.ofArrivals input.arrivals).lines) ?_ ?_ ?_ input s
  · exact fun _ => List.nil_prefix
  · intro i s x hx hlast
    rw [(supply_of_execution? hx).1]
    exact (List.prefix_cons_inj x.line).mpr List.nil_prefix
  · intro i s x t hx hnext ih
    rw [(supply_of_execution? hx).1]
    exact (List.prefix_cons_inj x.line).mpr ih

/-- No execution but the last one ends the loop. -/
lemma status_of_mem_dropLast_executions
    (h : x ∈ (s.executions table prompting input).dropLast) : x.status = .proceed := by
  revert x
  refine executions_induction table prompting
    (motive := fun _ _ xs => ∀ {x}, x ∈ xs.dropLast → x.status = .proceed) ?_ ?_ ?_ input s
  · intro i s h x hx
    cases hx
  · intro i s y hy hlast x hx
    cases hx
  · intro i s y t hy hnext ih x hx
    obtain ⟨-, -, hstatus⟩ := Execution.continuation?_eq_some_iff.mp hnext
    cases hrest : t.executions table prompting i.readLine.input with
    | nil =>
      rw [hrest] at hx
      cases hx
    | cons z zs =>
      rw [hrest, List.dropLast_cons_cons, List.mem_cons, ← hrest] at hx
      rcases hx with rfl | hx
      · exact hstatus
      · exact ih hx

/-- A run that succeeds, and that the interpreter survives, has executed a line that ends the loop,
or all lines of an input that did not fail. -/
lemma executions_of_failure_eq_none (hsuccess : (s.run table prompting input).failure = none)
    (halive : Launcher.departure? (s.run table prompting input).session.launcher = none) :
    (∃ x, (s.executions table prompting input).getLast? = some x ∧ x.status = .stop) ∨
      ((s.executions table prompting input).map Execution.line =
          (Supply.ofArrivals input.arrivals).lines ∧
        (Supply.ofArrivals input.arrivals).failure = none) := by
  revert hsuccess halive
  refine executions_induction table prompting (motive := fun input s xs =>
    (s.run table prompting input).failure = none →
    Launcher.departure? (s.run table prompting input).session.launcher = none →
    (∃ x, xs.getLast? = some x ∧ x.status = .stop) ∨
      (xs.map Execution.line = (Supply.ofArrivals input.arrivals).lines ∧
        (Supply.ofArrivals input.arrivals).failure = none)) ?_ ?_ ?_ input s
  · intro i s h hsuccess halive
    have hended := (run_of_execution?_eq_none h).2 hsuccess
    have hnoline : ∀ line, i.readLine.result ≠ .line line := by
      intro line hline
      rw [hended] at hline
      cases hline
    obtain ⟨hlines, -, hresult⟩ := Input.supply_of_result_ne_line hnoline
    refine Or.inr ⟨hlines.symm, ?_⟩
    rw [hended] at hresult
    cases hfailure : (Supply.ofArrivals i.arrivals).failure with
    | none => rfl
    | some e => rw [hfailure] at hresult; cases hresult
  · intro i s x hx hlast hsuccess halive
    exact Or.inl ⟨x, rfl, (run_of_continuation?_eq_none hx hlast).2 hsuccess halive⟩
  · intro i s x t hx hnext ih hsuccess halive
    obtain ⟨hrun, -⟩ := run_of_continuation?_eq_some hx hnext
    rw [hrun] at hsuccess halive
    rcases ih hsuccess halive with ⟨y, hy, hstop⟩ | ⟨hlines, hfailure⟩
    · exact Or.inl ⟨y, by rw [List.getLast?_cons, hy]; rfl, hstop⟩
    · obtain ⟨hcons, hrest⟩ := supply_of_execution? hx
      exact Or.inr ⟨by rw [List.map_cons, hlines, hcons], hrest.trans hfailure⟩

/-- The launches of a run are the argument vectors of its executions whose name no entry of the
table has, in order and whole.  The executed lines are the first ones of the input, one execution
for each turn reached that reads a line, and each goes one of the three ways; only the last one can
end the loop, and unless it does, a run that succeeds executes all lines. -/
theorem run_launches_eq_filter (table : Table β) (prompting : Bool) (input : Input)
    (s : Session σ τ ℓ) :
    let r := s.run table prompting input
    let xs := s.executions table prompting input
    r.session.launches = s.launches ++ (xs.map Execution.args).filter table.isExternal ∧
    (∀ x ∈ xs, Routed table x) ∧
    xs.map Execution.line <+: (Supply.ofArrivals input.arrivals).lines ∧
    (∀ x, x ∈ xs ↔ ∃ i u, Reaches table prompting (input, s) (i, u) ∧
      u.execution? table prompting i = some x) ∧
    (∀ x ∈ xs.dropLast, x.status = .proceed) ∧
    (r.failure = none → Launcher.departure? r.session.launcher = none →
      (∃ x, xs.getLast? = some x ∧ x.status = .stop) ∨
        (xs.map Execution.line = (Supply.ofArrivals input.arrivals).lines ∧
          (Supply.ofArrivals input.arrivals).failure = none)) :=
  ⟨launches_run table prompting input s, fun _ => routed_of_mem_executions,
    lines_executions_prefix table prompting input s, fun _ => mem_executions_iff,
    fun _ => status_of_mem_dropLast_executions, executions_of_failure_eq_none⟩

/-- A name that begins like one of the table is launched; of two entries with one name the first
counts, and after the line with which it ends the loop nothing is executed. -/
theorem run_launches_prefix_of_name :
    let table : Table := [("a", .quit), ("ab", .fail), ("a", .echo)]
    let s := start LimitedSink.unlimited LimitedSink.unlimited (⟨[]⟩ : ScriptedLauncher)
      ⟨[], [], [], []⟩ .off
    let input := Input.ofBytes (utf8 "abc x\nab\na y\nls\n")
    (s.run table false input).session.launches = [[utf8 "abc", utf8 "x"]] ∧
      ((s.executions table false input).map Execution.args).filter table.isExternal =
        [[utf8 "abc", utf8 "x"]] := by
  intro table s input
  have hlaunches : (s.run table false input).session.launches = [[utf8 "abc", utf8 "x"]] := by
    subst table s input
    cbv
  exact ⟨hlaunches, (run_launches_eq_filter table false input s).1.symm.trans hlaunches⟩

end Session

end CommandShell
