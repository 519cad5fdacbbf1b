import CommandShell.Proofs.Mirrors
import CommandShell.Proofs.Turns
import Mathlib.Data.List.Basic

/-!
# The loop and whole inputs

Where the streams accept everything, the loop can be told without streams, buffers and single bytes.
The bytes before the first end or failure are cut at the newlines (`Supply`); the complete lines are
executed one after the other, each in a session in which nothing has happened yet, between a prompt
and a flush; and whatever ends this, be it a command or the end of the lines, settles the result and
the count of bytes (`accountOfLines`).

The loop comes to the same (`Session.run_agrees`).  The proof goes by its turns: a turn that
proceeds takes the first line of the supply away, and every other one reads the rest or executes a
line that ends the loop.
-/

namespace CommandShell

open LineRead (newline)

/-! ### Lines of a whole input -/

/-- What an input supplies before its first end or failure. -/
structure Supply where
  /-- The bytes. -/
  bytes : Bytes
  /-- The failure, if it is one that comes. -/
  failure : Option IoError
deriving DecidableEq, Repr

namespace Supply

/-- The complete lines, without their newlines. -/
def lines (u : Supply) : List Bytes :=
  (u.bytes.splitOn newline).dropLast

/-- What no newline follows. -/
def rest (u : Supply) : Bytes :=
  (u.bytes.splitOn newline).getLastD []

/-- The supply of some arrivals. -/
def ofArrivals : List Arrival → Supply
  | [] => ⟨[], none⟩
  | .ended :: _ => ⟨[], none⟩
  | .failed e :: _ => ⟨[], some e⟩
  | .byte b :: later => ⟨b :: (ofArrivals later).bytes, (ofArrivals later).failure⟩

/-- Bytes are supplied before what arrives later. -/
lemma ofArrivals_append (bytes : Bytes) (later : List Arrival) :
    ofArrivals (bytes.map .byte ++ later) =
      ⟨bytes ++ (ofArrivals later).bytes, (ofArrivals later).failure⟩ := by
  induction bytes with
  | nil => rfl
  | cons b bytes ih => rw [List.map_cons, List.cons_append, ofArrivals, ih, List.cons_append]

/-- Without a newline there is no complete line. -/
lemma lines_eq_nil {u : Supply} (h : newline ∉ u.bytes) : u.lines = [] ∧ u.rest = u.bytes := by
  rw [lines, rest, List.splitOn_eq_singleton h]
  exact ⟨rfl, rfl⟩

/-- The first complete line ends at the first newline. -/
lemma lines_eq_cons {u : Supply} {line : Bytes} (h : newline ∉ line) (later : Bytes)
    (hbytes : u.bytes = line ++ newline :: later) :
    u.lines = line :: lines ⟨later, u.failure⟩ ∧ u.rest = rest ⟨later, u.failure⟩ := by
  obtain ⟨first, others, hsplit⟩ := List.exists_cons_of_ne_nil (List.splitOn_ne_nil newline later)
  rw [lines, rest, lines, rest, hbytes, List.splitOn_append_cons_self_of_not_mem h, hsplit]
  exact ⟨rfl, rfl⟩

end Supply

namespace Input

/-- Where a call finds the end or a failure, that is the rest of the supply. -/
lemma supply_of_result_ne_line {i : Input} (h : ∀ line, i.readLine.result ≠ .line line) :
    (Supply.ofArrivals i.arrivals).lines = [] ∧
      i.readLine.input.consumed = i.consumed + (Supply.ofArrivals i.arrivals).rest.length ∧
      i.readLine.result = match (Supply.ofArrivals i.arrivals).failure with
        | none => .ended
        | some e => .failed e := by
  obtain ⟨part, hitems, hcall, hcount⟩ := i.exists_call_readLine
  generalize i.readLine.input.arrivals = left at hitems hcall
  generalize i.readLine.result = result at h hcall ⊢
  rw [hcount, hitems]
  have hwhole {bytes : Bytes} (hbytes : newline ∉ bytes) {f : Option IoError} :
      Supply.lines ⟨bytes, f⟩ = [] ∧ Supply.rest ⟨bytes, f⟩ = bytes :=
    Supply.lines_eq_nil hbytes
  cases hcall with
  | line hbytes => exact absurd rfl (h _)
  | @ended bytes hbytes =>
    rw [List.append_assoc, Supply.ofArrivals_append]
    simp [Supply.ofArrivals, hwhole hbytes]
  | @failed bytes hbytes e =>
    rw [List.append_assoc, Supply.ofArrivals_append]
    simp [Supply.ofArrivals, hwhole hbytes]
  | @exhausted bytes hbytes =>
    rw [Supply.ofArrivals_append]
    simp [Supply.ofArrivals, hwhole hbytes]

/-- Where a call finds a line, that is the first of the supply, and the others follow. -/
lemma supply_of_result_eq_line {i : Input} {line : Bytes} (h : i.readLine.result = .line line) :
    (Supply.ofArrivals i.arrivals).lines =
        line :: (Supply.ofArrivals i.readLine.input.arrivals).lines ∧
      (Supply.ofArrivals i.arrivals).rest = (Supply.ofArrivals i.readLine.input.arrivals).rest ∧
      (Supply.ofArrivals i.arrivals).failure =
        (Supply.ofArrivals i.readLine.input.arrivals).failure ∧
      i.readLine.input.consumed = i.consumed + (line.length + 1) := by
  obtain ⟨part, hitems, hcall, hcount⟩ := i.exists_call_readLine
  generalize i.readLine.input.arrivals = left at hitems hcall ⊢
  rw [h] at hcall
  rw [hcount, hitems]
  cases hcall with
  | @line bytes hline =>
    rw [List.append_assoc, List.nil_append, Supply.ofArrivals_append]
    obtain ⟨hlines, hrest⟩ := Supply.lines_eq_cons
      (u := ⟨bytes ++ newline :: (Supply.ofArrivals left).bytes, (Supply.ofArrivals left).failure⟩)
      hline _ rfl
    refine ⟨hlines, hrest, rfl, ?_⟩
    simp

end Input

/-! ### The account of a run -/

/-- What a run comes to. -/
structure Account (ℓ : Type) where
  /-- What happened. -/
  events : List Event
  /-- Why the run failed, if it did. -/
  failure : Option ShellError
  /-- How many bytes it took from the input. -/
  consumed : Nat
  /-- The launcher afterwards. -/
  launcher : ℓ
  /-- The files afterwards. -/
  files : FileSystem

namespace Session

open Sink (AcceptsAll)

variable {β σ τ ℓ : Type}

/-- The events of a prompt, if there is to be one: the current directory, if there is one, with what
follows it, and a flush. -/
def promptEvents (wanted : Bool) (files : FileSystem) : List Event :=
  if wanted then
    (match files.currentDirectory? with
    | some directory => [.output (utf8 (Text.display directory ++ " ~ "))]
    | none => []) ++ [.flushed true]
  else []

/-- A session in which nothing has happened and no record is kept. -/
def fresh (launcher : ℓ) (files : FileSystem) : Session LimitedSink LimitedSink ℓ :=
  start .unlimited .unlimited launcher files .off

section

variable [HasHandler β] [Launcher ℓ]

/-- Executes lines in order and gives an account of that, where a failure may come after the lines,
and after the last newline some more bytes. -/
def accountOfLines (table : Table β) (prompting : Bool) (failure : Option IoError) (rest : Bytes) :
    List Bytes → ℓ → FileSystem → Account ℓ
  | [], launcher, files =>
    ⟨promptEvents prompting files, failure.map .io, rest.length, launcher, files⟩
  | line :: later, launcher, files =>
    match (fresh launcher files).execute table (.ofLine line) with
    | (status, after) =>
      let events := promptEvents prompting files ++ after.events ++ [.flushed true]
      match status with
      | .stop => ⟨events, none, line.length + 1, after.launcher, after.files⟩
      | .proceed =>
        let a := accountOfLines table prompting failure rest later after.launcher after.files
        { a with events := events ++ a.events, consumed := line.length + 1 + a.consumed }

/-- The account of executing what an input supplies. -/
def accountOfSupply (table : Table β) (prompting : Bool) (u : Supply) (launcher : ℓ)
    (files : FileSystem) : Account ℓ :=
  accountOfLines table prompting u.failure u.rest u.lines launcher files

end

/-! ### What a turn makes visible -/

variable [Sink σ] [Sink τ]

/-- The records of reading a line are not seen. -/
lemma Leads.afterReading {s : Session σ τ ℓ} (h : s.Accepts) (input : Input) :
    Leads [] s (s.afterReading input) :=
  (Leads.asked h).trans (Leads.noteAll (Leads.asked h).accepts _)

/-- The prompt is printed and flushed. -/
lemma Leads.prompt {s : Session σ τ ℓ} (h : s.Accepts) (wanted : Bool) :
    (s.prompt wanted).1 = none ∧
      Leads (promptEvents wanted s.files) s (s.prompt wanted).2 := by
  rw [Session.prompt, printDirectory, promptEvents]
  cases wanted with
  | false => exact ⟨rfl, Leads.refl h⟩
  | true =>
    cases s.files.currentDirectory? with
    | none => exact Leads.flush h
    | some directory =>
      obtain ⟨hfst, hlead⟩ := Leads.print h (utf8 (Text.display directory))
      generalize hs : s.print (utf8 (Text.display directory)) = printed at hfst hlead
      obtain ⟨failure, s₁⟩ := printed
      cases hfst
      obtain ⟨hfst, hlead'⟩ := Leads.print hlead.accepts (utf8 " ~ ")
      generalize hs' : s₁.print (utf8 " ~ ") = printed at hfst hlead'
      obtain ⟨failure, s₂⟩ := printed
      cases hfst
      obtain ⟨hfst, hflush⟩ := Leads.flush hlead'.accepts
      simp only [if_true, printTexts, hs, hs']
      refine ⟨hfst, ((hlead.trans hlead').trans hflush).congr fun later => ?_⟩
      rw [List.foldr_append, foldr_accepting_append _ (by decide), ← utf8_append]
      rfl

/-- What comes of a prompt that is known is led to by it. -/
lemma Leads.of_prompt_eq {s s' : Session σ τ ℓ} (h : s.Accepts) {wanted : Bool}
    {failure : Option IoError} (prompted : s.prompt wanted = (failure, s')) :
    Leads (promptEvents wanted s.files) s s' := by
  have hprompt := (Leads.prompt h wanted).2
  rwa [prompted] at hprompt

variable [HasHandler β] [Launcher ℓ] {table : Table β} {prompting : Bool} {input : Input}

/-- A line comes to the same in a session in which nothing has happened. -/
lemma mirrors_executeLine {s : Session σ τ ℓ} (h : s.Accepts) (table : Table β) (line : Bytes) :
    (s.executeLine table line).1 = ((fresh s.launcher s.files).execute table (.ofLine line)).1 ∧
      Mirrors s.shown (s.executeLine table line).2
        ((fresh s.launcher s.files).execute table (.ofLine line)).2 := by
  have hstart : Mirrors s.shown s (fresh s.launcher s.files) :=
    Mirrors.start h LimitedSink.acceptsAll_unlimited LimitedSink.acceptsAll_unlimited .off
  have hgrowth : Leads [] s (s.noteGrowth (.ofLine line)) := Leads.noteAll h _
  have hready := hgrowth.trans (Leads.note hgrowth.accepts (.arguments (.ofLine line)))
  have hrecorded := hstart.of_leads hready (Leads.refl hstart.right)
  exact (fullyParallel_mirrors s.shown).execute hrecorded table (.ofLine line)

/-- What a turn comes to that reads a line: the prompt, what happens in a session in which nothing
has happened, and a flush are seen. -/
lemma seen_of_turn {line : Bytes} {status : Status} {failure : Option IoError}
    {s s' after s'' : Session σ τ ℓ} (h : s.Accepts) (prompted : s.prompt prompting = (none, s'))
    (executed : (s'.afterReading input).executeLine table line = (status, after))
    (flushed : after.flush = (failure, s'')) :
    ∃ t : Session LimitedSink LimitedSink ℓ,
      (fresh s.launcher s.files).execute table (.ofLine line) = (status, t) ∧ failure = none ∧
        s''.Accepts ∧ s''.launcher = t.launcher ∧ s''.files = t.files ∧
        ∀ later, s''.shown later =
          s.shown ((promptEvents prompting s.files ++ t.events ++ [Event.flushed true]).foldr
            Sight.prepend later) := by
  have hprompt := Leads.of_prompt_eq h prompted
  have hread := hprompt.trans (Leads.afterReading hprompt.accepts input)
  obtain ⟨hstatus, hmirror⟩ := mirrors_executeLine hread.accepts table line
  rw [hread.launcher, hread.files, executed] at hstatus hmirror
  obtain ⟨hflush, hflushed⟩ := Leads.flush hmirror.left
  rw [flushed] at hflush hflushed
  refine ⟨_, Prod.ext hstatus.symm rfl, hflush, hflushed.accepts,
    hflushed.launcher.trans hmirror.launcher, hflushed.files.trans hmirror.files, fun later => ?_⟩
  rw [hflushed.shown, hmirror.shown, hread.shown, List.append_nil, List.foldr_append,
    List.foldr_append]
  rfl

/-- Where the streams accept everything, a turn breaks down only if the input cannot be read. -/
lemma Breakdown.of_accepts {e : IoError} {j : Input} {s t : Session σ τ ℓ}
    (hbreak : Breakdown table prompting input s e j t) (h : s.Accepts) :
    ∃ s', s.prompt prompting = (none, s') ∧ input.readLine.result = .failed e ∧
      j = input.readLine.input ∧ t = s'.afterReading input := by
  cases hbreak with
  | promptWrite wanted unwritten =>
    have hfst := (Leads.prompt h prompting).1
    rw [prompt, if_pos wanted, unwritten] at hfst
    cases hfst
  | promptFlush wanted written unflushed =>
    have hfst := (Leads.prompt h prompting).1
    rw [prompt, if_pos wanted, written] at hfst
    simp [unflushed] at hfst
  | read prompted unread => exact ⟨_, prompted, unread, rfl, rfl⟩
  | commandFlush prompted read executed alive unflushed =>
    obtain ⟨-, -, hfailure, -⟩ := seen_of_turn h prompted executed unflushed
    cases hfailure

/-- A run agrees with an account of it, where some bytes were taken before. -/
structure Agrees (s : Session σ τ ℓ) (before : Nat) (r : Run σ τ ℓ) (a : Account ℓ) : Prop where
  shown : ∀ later, r.session.shown later = s.shown (a.events.foldr Sight.prepend later)
  failure : r.failure = a.failure
  consumed : r.input.consumed = before + a.consumed
  launcher : r.session.launcher = a.launcher
  files : r.session.files = a.files

/-- A turn that reads no line agrees with an account of no lines. -/
lemma agrees_of_no_line (failure : Option IoError) {s s' t : Session σ τ ℓ} (h : s.Accepts)
    (prompted : s.prompt prompting = (none, s'))
    (read : input.readLine.result = match failure with
      | none => .ended
      | some e => .failed e) (ht : Leads [] (s'.afterReading input) t) :
    Agrees s input.consumed ⟨failure.map .io, input.readLine.input, t⟩
      (accountOfSupply table prompting (.ofArrivals input.arrivals) s.launcher s.files) := by
  have hnone : ∀ line, input.readLine.result ≠ .line line := by
    intro line hline
    rw [read] at hline
    cases failure <;> cases hline
  obtain ⟨hlines, hcount, hsupply⟩ := Input.supply_of_result_ne_line hnone
  have hfailure : failure = (Supply.ofArrivals input.arrivals).failure := by
    rw [read] at hsupply
    generalize (Supply.ofArrivals input.arrivals).failure = f at hsupply
    cases failure <;> cases f <;> simp_all
  have hprompt := Leads.of_prompt_eq h prompted
  have hlead := (hprompt.trans (Leads.afterReading hprompt.accepts input)).trans ht
  rw [accountOfSupply, hlines, accountOfLines]
  refine ⟨fun later => ?_, ?_, hcount, hlead.launcher, hlead.files⟩
  · rw [hlead.shown, List.append_nil, List.append_nil]
  · rw [hfailure]

/-- Where the launcher never lets the interpreter die, a run agrees with the account of what the
input supplies. -/
theorem run_agrees (hlive : ∀ l : ℓ, Launcher.departure? l = none) (table : Table β)
    (prompting : Bool)
    (input : Input) (s : Session σ τ ℓ) (h : s.Accepts) :
    Agrees s input.consumed (s.run table prompting input)
      (accountOfSupply table prompting (.ofArrivals input.arrivals) s.launcher s.files) := by
  revert h
  -- What a turn leaves of the session and of the input is where the account of the next one starts.
  refine run_induction table prompting (motive := fun i s r => s.Accepts →
    Agrees s i.consumed r (accountOfSupply table prompting (.ofArrivals i.arrivals) s.launcher
      s.files)) ?_ ?_ ?_ input s
  · intro i s e j t hbreak h
    obtain ⟨s', prompted, unread, rfl, rfl⟩ := hbreak.of_accepts h
    have hread := Leads.afterReading (Leads.of_prompt_eq h prompted).accepts i
    exact agrees_of_no_line (some e) h prompted unread (Leads.refl hread.accepts)
  · intro i s j t hfinish h
    cases hfinish with
    | ended prompted ended =>
      have hread := Leads.afterReading (Leads.of_prompt_eq h prompted).accepts i
      exact agrees_of_no_line none h prompted ended
        (Leads.note hread.accepts .endOfInput)
    | stopped prompted read executed alive flushed =>
      obtain ⟨hlines, -, -, hcount⟩ := Input.supply_of_result_eq_line read
      obtain ⟨t, hexecute, -, haccepts, hlauncher, hfiles, hshown⟩ :=
        seen_of_turn h prompted executed flushed
      have hnote := Leads.note haccepts .exitRequested
      simp only [accountOfSupply, hlines, accountOfLines, hexecute]
      refine ⟨fun later => ?_, rfl, hcount, hnote.launcher.trans hlauncher,
        hnote.files.trans hfiles⟩
      exact (hnote.shown later).trans (hshown later)
    | departed prompted read executed dead =>
      rw [hlive] at dead
      cases dead
  · intro i s j t hproceeds ih h
    cases hproceeds with
    | mk prompted read executed alive flushed =>
      obtain ⟨hlines, hrest, hfailure, hcount⟩ := Input.supply_of_result_eq_line read
      obtain ⟨t, hexecute, -, haccepts, hlauncher, hfiles, hshown⟩ :=
        seen_of_turn h prompted executed flushed
      obtain ⟨hseen, hresult, htaken, hl, hf⟩ := ih haccepts
      rw [hlauncher, hfiles] at hseen hresult htaken hl hf
      simp only [accountOfSupply, hlines, hrest, hfailure, accountOfLines, hexecute]
      refine ⟨fun later => ?_, hresult, ?_, hl, hf⟩
      · rw [hseen, hshown, ← List.foldr_append]
        rfl
      · rw [htaken, hcount, Nat.add_assoc]
        rfl

/-- Where both streams accept everything, a run comes to the account of what its input supplies: the
same is seen of it, it fails for the same reason or not at all, it has taken as many bytes, and it
leaves the same launcher and the same files. -/
theorem run_eq_account (table : Table β) (prompting : Bool) (events : List InputEvent) {out : σ}
    {err : τ} (hout : AcceptsAll out) (herr : AcceptsAll err) (launcher : ScriptedLauncher)
    (files : FileSystem) (v : Verbosity) :
    let r := (start out err launcher files v).run table prompting (.ofEvents events)
    let a := accountOfSupply table prompting (.ofArrivals (InputEvent.arrivals events)) launcher
      files
    r.session.sights = Event.sights a.events ∧ r.failure = a.failure ∧
      r.input.consumed = a.consumed ∧ r.session.launcher = a.launcher ∧
      r.session.files = a.files := by
  obtain ⟨hshown, hfailure, hconsumed, hlauncher, hfiles⟩ :=
    run_agrees (fun _ => rfl) table prompting (.ofEvents events)
      (start out err launcher files v) ⟨hout, herr⟩
  refine ⟨hshown [], hfailure, ?_, hlauncher, hfiles⟩
  rwa [Input.consumed_ofEvents, Nat.zero_add] at hconsumed

/-- The command that ends the loop is the last one, and nothing after its line is taken. -/
theorem run_exit_account :
    let r := (start LimitedSink.unlimited LimitedSink.unlimited (⟨[]⟩ : ScriptedLauncher)
      ⟨[], [], [], []⟩ .off).run Table.standard true (.ofBytes (utf8 "exit\nls"))
    r.session.sights = [.output (utf8 "/ ~ "), .flush, .flush] ∧ r.failure = none ∧
      r.input.consumed = 5 := by
  obtain ⟨hsights, hfailure, hconsumed, -⟩ :=
    run_eq_account Table.standard true [.chunk (utf8 "exit\nls")] LimitedSink.acceptsAll_unlimited
      LimitedSink.acceptsAll_unlimited (⟨[]⟩ : ScriptedLauncher) ⟨[], [], [], []⟩ .off
  exact ⟨hsights.trans (by decide), hfailure.trans (by decide), hconsumed.trans (by decide)⟩

end Session

end CommandShell
