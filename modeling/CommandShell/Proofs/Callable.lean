import CommandShell.Proofs.Executions
import CommandShell.Proofs.Forms
import CommandShell.Proofs.Layout
import Mathlib

/-!
# Entries that a line can call

An entry of a table is of use only if some line calls its handler.  To tell entries with the same
command apart, each command is given the place of its entry (`Table.numbered`); the entry that a
line calls is the one that is found there for the name of its command (`Table.called?`).

A line can be cut so that its first argument is any byte string that is an argument, and no other.
So an entry can be called just if its name is an argument and no entry before it has that name
(`Table.exists_calls_iff`): a name with a delimiter in it, the empty name and the name of an earlier
entry are never found.  Entries that cannot be called can be inserted anywhere, and no line and no
run is the wiser (`Session.executeLine_original`).
-/

namespace CommandShell

/-- Different texts have different forms. -/
lemma utf8_injective : Function.Injective utf8 := by
  intro a b h
  have hdecoded := congrArg Text.decode? h
  rw [Text.decode?_utf8, Text.decode?_utf8, Option.some.injEq] at hdecoded
  exact String.toList_inj.mp hdecoded

namespace Table

variable {β : Type}

/-! ### The entry that a line calls -/

/-- A table in which the commands know the places of their entries. -/
def numbered (table : Table β) : Table (β × Nat) :=
  table.mapIdx fun place entry => (entry.1, entry.2, place)

/-- The command whose handler is called on some arguments, and the place of its entry. -/
def called? (table : Table β) (args : ArgVector) : Option (β × Nat) :=
  args.command?.bind table.numbered.builtin?

/-- Executing a line calls the handler of the entry at a place. -/
def Calls (table : Table β) (place : Nat) (line : Bytes) : Prop :=
  ∃ b, table.called? (.ofLine line) = some (b, place)

variable {table : Table β} {place : Nat} {name : Bytes} {b : β}

/-- The first entry with a name is found, with its place. -/
lemma builtin?_numbered_eq_some_iff :
    table.numbered.builtin? name = some (b, place) ↔
      ∃ n, table[place]? = some (n, b) ∧ utf8 n = name ∧
        ∀ e ∈ table.take place, utf8 e.1 ≠ name := by
  rw [builtin?, Option.map_eq_some_iff]
  constructor
  · rintro ⟨⟨n, c⟩, hfind, hc⟩
    obtain ⟨hname, i, hi, hentry, hfirst⟩ := List.find?_eq_some_iff_getElem.mp hfind
    have hlength : i < table.length := by simpa [numbered] using hi
    simp only [numbered, List.getElem_mapIdx, Prod.mk.injEq] at hentry
    obtain ⟨hn, rfl⟩ := hentry
    obtain ⟨hb, rfl⟩ := Prod.mk.inj hc
    refine ⟨n, ?_, by simpa using hname, ?_⟩
    · rw [List.getElem?_eq_getElem hlength, Option.some.injEq]
      exact Prod.ext hn hb
    · intro e he
      obtain ⟨j, hj, rfl⟩ := List.mem_take_iff_getElem.mp he
      have hbefore := hfirst j (by omega)
      simpa [numbered, List.getElem_mapIdx] using hbefore
  · rintro ⟨n, hentry, hname, hfirst⟩
    obtain ⟨hlength, hentry⟩ := List.getElem?_eq_some_iff.mp hentry
    refine ⟨(n, b, place),
      List.find?_eq_some_iff_getElem.mpr ⟨by simpa using hname, place, ?_⟩, rfl⟩
    refine ⟨by simpa [numbered] using hlength, ?_, fun j hj => ?_⟩
    · simp only [numbered, List.getElem_mapIdx, hentry]
    · have hmem : table[j] ∈ table.take place :=
        List.mem_take_iff_getElem.mpr ⟨j, by omega, rfl⟩
      simpa [numbered, List.getElem_mapIdx] using hfirst _ hmem

/-- Numbering makes no difference to what is found. -/
lemma builtin?_numbered (table : Table β) (name : Bytes) :
    (table.numbered.builtin? name).map Prod.fst = table.builtin? name := by
  cases hfound : table.builtin? name with
  | none =>
    rw [Option.map_eq_none_iff, Option.eq_none_iff_forall_ne_some]
    rintro ⟨b, place⟩ hnumbered
    obtain ⟨n, hentry, hname, -⟩ := builtin?_numbered_eq_some_iff.mp hnumbered
    rw [builtin?, Option.map_eq_none_iff, List.find?_eq_none] at hfound
    exact hfound (n, b) (List.mem_of_getElem? hentry) (by simpa using hname)
  | some b =>
    obtain ⟨earlier, later, n, rfl, hfirst, hname⟩ := builtin?_eq_some_iff.mp hfound
    have hnumbered : (Table.numbered (earlier ++ (n, b) :: later)).builtin? name =
        some (b, earlier.length) :=
      builtin?_numbered_eq_some_iff.mpr ⟨n, by simp, hname, by simpa using hfirst⟩
    rw [hnumbered]
    rfl

/-- A line calls an entry just if it names the entry and none before it. -/
lemma calls_iff {line : Bytes} :
    table.Calls place line ↔ ∃ n b, table[place]? = some (n, b) ∧
      (ArgVector.ofLine line).command? = some (utf8 n) ∧ ∀ e ∈ table.take place, e.1 ≠ n := by
  constructor
  · rintro ⟨b, hcalled⟩
    obtain ⟨name, hcommand, hfound⟩ := Option.bind_eq_some_iff.mp hcalled
    obtain ⟨n, hentry, rfl, hfirst⟩ := builtin?_numbered_eq_some_iff.mp hfound
    exact ⟨n, b, hentry, hcommand, fun e he heq => hfirst e he (congrArg utf8 heq)⟩
  · rintro ⟨n, b, hentry, hcommand, hfirst⟩
    refine ⟨b, Option.bind_eq_some_iff.mpr ⟨utf8 n, hcommand, ?_⟩⟩
    exact builtin?_numbered_eq_some_iff.mpr
      ⟨n, hentry, rfl, fun e he heq => hfirst e he (utf8_injective heq)⟩

/-- A form is an argument just if the text is not empty and no byte of the form is a delimiter. -/
lemma isArgument_utf8_iff (n : String) :
    IsArgument (utf8 n) ↔ n ≠ "" ∧ ∀ d ∈ delimiters, d ∉ utf8 n := by
  have hempty : utf8 n = [] ↔ n = "" := by
    constructor
    · intro h
      exact utf8_injective (h.trans rfl)
    · rintro rfl
      rfl
  rw [IsArgument, Ne, hempty]
  refine and_congr_right fun _ => ?_
  constructor
  · intro h d hd hmem
    have hnot := h d hmem
    rw [isDelimiter, List.contains_eq_mem, decide_eq_false_iff_not] at hnot
    exact hnot hd
  · intro h b hb
    rw [isDelimiter, List.contains_eq_mem, decide_eq_false_iff_not]
    exact fun hd => h b hd hb

/-- An entry can be called just if its name is an argument and no entry before it has that name. -/
lemma exists_calls_iff {n : String} (hentry : table[place]? = some (n, b)) :
    (∃ line, table.Calls place line) ↔
      n ≠ "" ∧ (∀ d ∈ delimiters, d ∉ utf8 n) ∧ ∀ e ∈ table.take place, e.1 ≠ n := by
  rw [← and_assoc, ← isArgument_utf8_iff]
  constructor
  · rintro ⟨line, hcalls⟩
    obtain ⟨n', b', hentry', hcommand, hfirst⟩ := calls_iff.mp hcalls
    obtain ⟨rfl, rfl⟩ := Prod.mk.inj (Option.some.inj (hentry.symm.trans hentry'))
    exact ⟨ArgVector.isArgument_of_mem_ofLine (List.mem_of_head? hcommand), hfirst⟩
  · rintro ⟨hargument, hfirst⟩
    refine ⟨utf8 n, calls_iff.mpr ⟨n, b, hentry, ?_, hfirst⟩⟩
    rw [ArgVector.ofLine_argument hargument]
    rfl

end Table

/-! ### Entries that are inserted -/

/-- A table in which some entries are marked as inserted. -/
abbrev MarkedTable (β : Type) := List ((String × β) × Bool)

namespace MarkedTable

variable {β : Type}

/-- The table with the inserted entries. -/
def whole (marked : MarkedTable β) : Table β :=
  marked.map Prod.fst

/-- The table without the inserted entries. -/
def original (marked : MarkedTable β) : Table β :=
  (marked.filter fun entry => !entry.2).map Prod.fst

/-- No line calls an entry that is inserted. -/
def InsertsUncallable (marked : MarkedTable β) : Prop :=
  ∀ place entry, marked[place]? = some (entry, true) → ∀ line, ¬ marked.whole.Calls place line

variable {marked : MarkedTable β}

/-- What is filtered out makes no difference if the first hit is none of it. -/
lemma find?_filter_of_find? {α : Type} {p q : α → Bool} {l : List α}
    (h : ∀ a, l.find? p = some a → q a = true) : (l.filter q).find? p = l.find? p := by
  rw [List.find?_filter]
  induction l with
  | nil => rfl
  | cons a l ih =>
    cases hp : p a with
    | false => simpa [List.find?_cons, hp] using ih (by simpa [List.find?_cons, hp] using h)
    | true =>
      have hq : q a = true := h a (by simp [hp])
      simp [hp, hq]

/-- What the command of a line finds is not inserted, so it is found without the inserted
entries. -/
lemma builtin?_original (h : marked.InsertsUncallable) {line name : Bytes}
    (hcommand : (ArgVector.ofLine line).command? = some name) :
    marked.original.builtin? name = marked.whole.builtin? name := by
  rw [Table.builtin?, Table.builtin?, original, whole, List.find?_map, List.find?_map,
    find?_filter_of_find?]
  rintro ⟨⟨n, b⟩, inserted⟩ hfind
  obtain ⟨hname, place, hplace, hentry, hfirst⟩ := List.find?_eq_some_iff_getElem.mp hfind
  have hn : utf8 n = name := by simpa using hname
  have hcalls : marked.whole.Calls place line := by
    refine Table.calls_iff.mpr ⟨n, b, by simp [whole, hplace, hentry], hn ▸ hcommand, ?_⟩
    intro e he heq
    obtain ⟨i, hi, hmarked⟩ := List.mem_take_iff_getElem.mp he
    have hbefore := hfirst i (by omega)
    simp only [whole, List.getElem_map] at hmarked
    simp [hmarked, heq, hn] at hbefore
  cases inserted with
  | false => rfl
  | true =>
    exact absurd hcalls (h place (n, b) (List.getElem?_eq_some_iff.mpr ⟨hplace, hentry⟩) line)

end MarkedTable

namespace Session

variable {β σ τ ℓ : Type} [HasHandler β] [Sink σ] [Sink τ] [Launcher ℓ]
variable {table table' : Table β} {prompting : Bool}

/-! ### Lines -/

/-- A line that calls an entry runs the handler of its command; any other line has its arguments
launched, if it has any. -/
lemma executeLine_eq_called (table : Table β) (line : Bytes) (s : Session σ τ ℓ) :
    s.executeLine table line =
      let args := ArgVector.ofLine line
      let recorded := s.recording args
      match args.command?, table.called? args with
      | some name, some (b, _) =>
        (recorded.note (.builtin (Text.display name))).runBuiltin b args
      | some name, none => (.proceed, recorded.runProgram name args)
      | none, _ => (.proceed, recorded) := by
  simp only [executeLine, execute, recording, Table.called?]
  cases hname : (ArgVector.ofLine line).command? with
  | none => rfl
  | some name =>
    simp only [Option.bind_some, ← table.builtin?_numbered name]
    cases table.numbered.builtin? name with
    | none => rfl
    | some found => rfl

/-- The command of a line decides what executing it comes to. -/
lemma executeLine_congr {line : Bytes} (s : Session σ τ ℓ)
    (h : ∀ name, (ArgVector.ofLine line).command? = some name →
      table.builtin? name = table'.builtin? name) :
    s.executeLine table line = s.executeLine table' line := by
  simp only [executeLine, execute]
  cases hname : (ArgVector.ofLine line).command? with
  | none => rfl
  | some name => simp only [h name hname]

/-! ### Runs -/

section

variable (hlines : ∀ line (s : Session σ τ ℓ), s.executeLine table line = s.executeLine table' line)
include hlines

/-- A turn that breaks down does so with every table that has the lines do the same. -/
lemma Breakdown.of_executeLine_eq {i j : Input} {s t : Session σ τ ℓ} {e : IoError}
    (h : Breakdown table prompting i s e j t) : Breakdown table' prompting i s e j t := by
  cases h with
  | promptWrite wanted unwritten => exact .promptWrite wanted unwritten
  | promptFlush wanted written unflushed => exact .promptFlush wanted written unflushed
  | read prompted unread => exact .read prompted unread
  | commandFlush prompted read executed alive unflushed =>
    exact .commandFlush prompted read (hlines _ _ ▸ executed) alive unflushed

/-- A turn that is the last one is so with every table that has the lines do the same. -/
lemma Finish.of_executeLine_eq {i j : Input} {s t : Session σ τ ℓ}
    (h : Finish table prompting i s j t) : Finish table' prompting i s j t := by
  cases h with
  | ended prompted ended => exact .ended prompted ended
  | stopped prompted read executed alive flushed =>
    exact .stopped prompted read (hlines _ _ ▸ executed) alive flushed
  | departed prompted read executed dead =>
    exact .departed prompted read (hlines _ _ ▸ executed) dead

/-- A turn is followed by the same one with every table that has the lines do the same. -/
lemma Proceeds.of_executeLine_eq {m m' : Input × Session σ τ ℓ}
    (h : Proceeds table prompting m m') : Proceeds table' prompting m m' := by
  obtain ⟨prompted, read, executed, alive, flushed⟩ := h
  exact .mk prompted read (hlines _ _ ▸ executed) alive flushed

/-- Tables that have the lines do the same have the same runs. -/
lemma run_eq_of_executeLine_eq (input : Input) (s : Session σ τ ℓ) :
    s.run table prompting input = s.run table' prompting input := by
  refine run_induction table prompting
    (motive := fun i s r => r = s.run table' prompting i) ?_ ?_ ?_ input s
  · intro i s e j t h
    exact (h.of_executeLine_eq hlines).run_eq.symm
  · intro i s j t h
    exact (h.of_executeLine_eq hlines).run_eq.symm
  · intro i s j t h ih
    exact ih.trans (h.of_executeLine_eq hlines).run_eq.symm

end

/-- Without the entries that were inserted and that no line calls, every line does the same. -/
lemma executeLine_original {marked : MarkedTable β} (h : marked.InsertsUncallable) (line : Bytes)
    (s : Session σ τ ℓ) : s.executeLine marked.original line = s.executeLine marked.whole line :=
  s.executeLine_congr fun _ hname => MarkedTable.builtin?_original h hname

end Session

namespace Table

variable {β σ τ ℓ : Type} [HasHandler β] [Sink σ] [Sink τ] [Launcher ℓ]

/-- A line calls the handler of at most one entry, the first with the name of its command; if there
is none, its arguments are launched.  Some line calls an entry just if the name of the entry is not
empty, has none of the six delimiters in it and is not the name of an earlier entry.  So entries
that no line calls can be inserted anywhere in a table: every line does what it did without them,
whatever the session, and so does every run. -/
theorem calls_iff_name (table : Table β) :
    (∀ (line : Bytes) (s : Session σ τ ℓ),
      let args := ArgVector.ofLine line
      let recorded := s.recording args
      s.executeLine table line =
        match args.command?, table.called? args with
        | some name, some (b, _) =>
          (recorded.note (.builtin (Text.display name))).runBuiltin b args
        | some name, none => (.proceed, recorded.runProgram name args)
        | none, _ => (.proceed, recorded)) ∧
    (∀ place name b, table[place]? = some (name, b) →
      (∀ line, table.Calls place line → table.called? (.ofLine line) = some (b, place)) ∧
      ((∃ line, table.Calls place line) ↔
        name ≠ "" ∧ (∀ d ∈ ([0x20, 0x09, 0x0D, 0x0A, 0x07, 0x27] : Bytes), d ∉ utf8 name) ∧
          ∀ earlier ∈ table.take place, earlier.1 ≠ name)) ∧
    ∀ marked : MarkedTable β, marked.whole = table → marked.InsertsUncallable →
      (∀ line (s : Session σ τ ℓ),
        s.executeLine marked.original line = s.executeLine table line) ∧
      ∀ prompting input (s : Session σ τ ℓ),
        s.run marked.original prompting input = s.run table prompting input := by
  refine ⟨Session.executeLine_eq_called table,
    fun place name b hentry => ⟨?_, exists_calls_iff hentry⟩, ?_⟩
  · intro line hcalls
    obtain ⟨b', hcalled⟩ := hcalls
    obtain ⟨name', -, hfound⟩ := Option.bind_eq_some_iff.mp hcalled
    obtain ⟨n, hentry', -, -⟩ := builtin?_numbered_eq_some_iff.mp hfound
    obtain ⟨rfl, rfl⟩ := Prod.mk.inj (Option.some.inj (hentry.symm.trans hentry'))
    exact hcalled
  · rintro marked rfl h
    have hlines : ∀ line (s : Session σ τ ℓ),
        s.executeLine marked.original line = s.executeLine marked.whole line :=
      Session.executeLine_original h
    exact ⟨hlines, fun _ => Session.run_eq_of_executeLine_eq hlines⟩

/-- Three entries are inserted that no line calls: one before all others with a blank in its name,
one without a name, and one after another of its name. -/
theorem calls_iff_name_inserted :
    let marked : MarkedTable Builtin := [(("a b", .quit), true), (("x", .exit), false),
      (("", .fail), true), (("x", .echo), true), (("y", .quit), false)]
    marked.original = [("x", .exit), ("y", .quit)] ∧ marked.InsertsUncallable ∧
      (∃ line, marked.whole.Calls 4 line) ∧
      ∀ line (s : Session LimitedSink LimitedSink ScriptedLauncher),
        s.executeLine marked.original line = s.executeLine marked.whole line := by
  intro marked
  obtain ⟨-, hcallable, hinsert⟩ :=
    calls_iff_name (σ := LimitedSink) (τ := LimitedSink) (ℓ := ScriptedLauncher) marked.whole
  have huncallable : marked.InsertsUncallable := by
    intro place entry hentry line hcalls
    rcases place with _ | _ | _ | _ | _ | place
    · obtain ⟨-, hdelimiters, -⟩ := (hcallable 0 "a b" .quit rfl).2.mp ⟨line, hcalls⟩
      exact hdelimiters 0x20 (by decide) (by decide)
    · cases hentry
    · obtain ⟨hempty, -, -⟩ := (hcallable 2 "" .fail rfl).2.mp ⟨line, hcalls⟩
      exact hempty rfl
    · obtain ⟨-, -, hfirst⟩ := (hcallable 3 "x" .echo rfl).2.mp ⟨line, hcalls⟩
      exact hfirst ("x", .exit) (by decide) rfl
    · cases hentry
    · cases hentry
  refine ⟨rfl, huncallable, ?_, (hinsert marked rfl huncallable).1⟩
  have hy : utf8 "y" = [0x79] := by decide
  exact (hcallable 4 "y" .quit rfl).2.mpr
    ⟨by decide, by simp [hy], by decide⟩

end Table

end CommandShell
