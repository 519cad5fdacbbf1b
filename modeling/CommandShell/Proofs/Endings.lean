import CommandShell.Proofs.Account
import CommandShell.Proofs.Verdicts
import Mathlib

/-!
# Where runs end

Of the commands of every session only `exit` can end the loop: the others come to other verdicts,
whatever their arguments are and whatever is answered to what they do
(`Builtin.yields_goesOn`), and programs have no say in it.  So whether a line ends the loop can be
told from the line alone.

For any such table, a run that does not break down reads its input through the first line that ends
the loop, or to the first end of the input if there is no such line (`Input.ReadsThrough`).  A turn
that proceeds adds its line in front of what is read through later; the other turns are the two ways
to end.
-/

namespace CommandShell

open LineRead (newline)

/-! ### Commands of every session -/

/-- A verdict after which the loop goes on. -/
def Verdict.GoesOn (v : Verdict) : Prop :=
  v ≠ .ok .stop

lemma Verdict.goesOn_proceed : GoesOn (.ok .proceed) := nofun

/-- After a command that gave up the loop goes on. -/
lemma Verdict.goesOn_error (f : Failure) : GoesOn (.error f) := nofun

open Verdict (GoesOn goesOn_proceed goesOn_error) in
open Handler (Yields) in
/-- Of the builtin commands only two can end the loop. -/
lemma Builtin.yields_goesOn {b : Builtin} (hexit : b ≠ .exit) (hquit : b ≠ .quit)
    (args : ArgVector) : (b.handler args).Yields GoesOn := by
  cases b with
  | create =>
    refine .withPaths .create goesOn_proceed (fun _ => goesOn_error _)
      (fun _ _ f _ _ => goesOn_error f) fun paths _ => ?_
    exact (Yields.handedOn GoesOn).createFiles goesOn_proceed (fun _ _ => trivial)
      fun _ _ _ => goesOn_error _
  | print =>
    refine .withPaths .print goesOn_proceed (fun _ => goesOn_error _)
      (fun _ _ f _ _ => goesOn_error f) fun paths _ => ?_
    exact (Yields.handedOn GoesOn).printFiles goesOn_proceed (fun _ _ _ => goesOn_error _)
      fun _ _ _ => goesOn_error _
  | help =>
    exact (Yields.handedOn GoesOn).printTexts (.done goesOn_proceed) (fun _ => goesOn_error _) _
  | exit => exact absurd rfl hexit
  | echo =>
    intro failure
    cases failure with
    | none => exact goesOn_proceed
    | some e => exact goesOn_error _
  | quit => exact absurd rfl hquit
  | fail => exact goesOn_error _
  | chain =>
    exact (Yields.handedOn GoesOn).printTexts (.done (goesOn_error _)) (fun _ => goesOn_error _) _

namespace Table

/-- Only one entry of the table of every session is a command that can end the loop. -/
lemma eq_exit_iff_of_builtin?_standard {name : Bytes} {b : Builtin}
    (h : standard.builtin? name = some b) : b ≠ .quit ∧ (b = .exit ↔ name = utf8 "exit") := by
  obtain ⟨entry, hfind, rfl⟩ := Option.map_eq_some_iff.mp h
  have hname : utf8 entry.1 = name := by simpa using List.find?_some hfind
  have hentries : ∀ entry ∈ standard,
      entry.2 ≠ .quit ∧ (entry.2 = .exit ↔ utf8 entry.1 = utf8 "exit") := by decide
  rw [← hname]
  exact hentries entry (List.mem_of_find?_eq_some hfind)

end Table

/-- Whether the first argument is `exit`, byte for byte. -/
def ArgVector.asksToExit (args : ArgVector) : Bool :=
  args.command? = some (utf8 "exit")

namespace Session

variable {β σ τ ℓ : Type} [Sink σ] [Sink τ] [Launcher ℓ]

/-- Of the commands of every session just those end the loop whose first argument is `exit`,
whatever follows it, and whatever is answered to them. -/
lemma execute_standard_eq_stop_iff (args : ArgVector) (s : Session σ τ ℓ) :
    (s.execute Table.standard args).1 = .stop ↔ args.asksToExit = true := by
  rw [execute_fst_eq_stop_iff, ArgVector.asksToExit, decide_eq_true_iff]
  constructor
  · rintro ⟨name, b, hname, hb, hstop⟩
    -- The handler came to the verdict that the loop is over, so it was that of `exit`.
    obtain ⟨hquit, hexit⟩ := Table.eq_exit_iff_of_builtin?_standard hb
    have hb : b = .exit := by
      by_contra hne
      exact (Builtin.yields_goesOn hne hquit args).run Verdict.goesOn_proceed _ hstop
    rw [hname, hexit.mp hb]
  · intro hname
    exact ⟨utf8 "exit", .exit, hname, by decide, rfl⟩

end Session

/-! ### Reading through an input -/

namespace Supply

/-- The bytes up to and including the newline of the first complete line of a kind, if there is such
a line. -/
def through? (kind : Bytes → Bool) (u : Supply) : Option Bytes :=
  (u.lines.findIdx? kind).map fun n => (u.lines.take (n + 1)).flatMap (· ++ [newline])

/-- Without complete lines there is none of any kind. -/
lemma through?_of_lines_eq_nil (kind : Bytes → Bool) {u : Supply} (h : u.lines = []) :
    u.through? kind = none := by
  rw [through?, h]
  rfl

/-- If the first complete line is of the kind, it is all, and else it comes before the others. -/
lemma through?_of_lines_eq_cons (kind : Bytes → Bool) {u v : Supply} {line : Bytes}
    (h : u.lines = line :: v.lines) :
    u.through? kind =
      if kind line then some (line ++ [newline])
      else (v.through? kind).map (line ++ [newline] ++ ·) := by
  rw [through?, h, List.findIdx?_cons]
  split
  · simp
  · simp [through?, Function.comp_def]

end Supply

namespace Input

/-- A call that finds a line takes its bytes and the newline after them. -/
lemma arrivals_of_result_eq_line {i : Input} {line : Bytes} (h : i.readLine.result = .line line) :
    i.arrivals = (line ++ [newline]).map .byte ++ i.readLine.input.arrivals := by
  obtain ⟨part, hitems, hcall, -⟩ := i.exists_call_readLine
  generalize i.readLine.input.arrivals = left at hitems hcall ⊢
  rw [h] at hcall
  cases hcall with
  | line hline =>
    rw [hitems, List.nil_append, List.map_append]
    rfl

/-- A call that finds the end takes everything before it, and the end itself if it has arrived. -/
lemma arrivals_of_result_eq_ended {i : Input} (h : i.readLine.result = .ended) :
    let u := Supply.ofArrivals i.arrivals
    u.lines = [] ∧ u.failure = none ∧
      i.readLine.input.consumed = i.consumed + u.bytes.length ∧
      (i.arrivals = u.bytes.map .byte ++ .ended :: i.readLine.input.arrivals ∨
        i.arrivals = u.bytes.map .byte ∧ i.readLine.input.arrivals = []) := by
  obtain ⟨part, hitems, hcall, hcount⟩ := i.exists_call_readLine
  generalize i.readLine.input.arrivals = left at hitems hcall ⊢
  rw [h] at hcall
  rw [hcount, hitems]
  cases hcall with
  | @ended bytes hbytes =>
    have hnil := (Supply.lines_eq_nil (u := ⟨bytes, none⟩) hbytes).1
    rw [List.append_assoc, Supply.ofArrivals_append]
    simp [Supply.ofArrivals, hnil]
  | @exhausted bytes hbytes =>
    have hnil := (Supply.lines_eq_nil (u := ⟨bytes, none⟩) hbytes).1
    rw [Supply.ofArrivals_append]
    simp [Supply.ofArrivals, hnil]

/-- An input has become another one by being read through the first complete line of a kind, and not
further; or without such a line, to the first end, which comes without a failure before it. -/
def ReadsThrough (kind : Bytes → Bool) (i j : Input) : Prop :=
  let u := Supply.ofArrivals i.arrivals
  match u.through? kind with
  | some bytes =>
    i.arrivals = bytes.map .byte ++ j.arrivals ∧ j.consumed = i.consumed + bytes.length
  | none =>
    (i.arrivals = u.bytes.map .byte ++ .ended :: j.arrivals ∨
      i.arrivals = u.bytes.map .byte ∧ j.arrivals = []) ∧
    u.failure = none ∧ j.consumed = i.consumed + u.bytes.length

namespace ReadsThrough

variable {kind : Bytes → Bool} {i j : Input} {line : Bytes}

/-- The end comes first. -/
lemma of_ended (h : i.readLine.result = .ended) : ReadsThrough kind i i.readLine.input := by
  obtain ⟨hlines, hfailure, hcount, hitems⟩ := arrivals_of_result_eq_ended h
  rw [ReadsThrough, Supply.through?_of_lines_eq_nil kind hlines]
  exact ⟨hitems, hfailure, hcount⟩

/-- A line of the kind comes first. -/
lemma of_line (h : i.readLine.result = .line line) (hkind : kind line = true) :
    ReadsThrough kind i i.readLine.input := by
  obtain ⟨hlines, -, -, hcount⟩ := supply_of_result_eq_line h
  rw [ReadsThrough, Supply.through?_of_lines_eq_cons kind hlines, if_pos hkind]
  exact ⟨arrivals_of_result_eq_line h, by rw [hcount, List.length_append]; rfl⟩

/-- Another line comes before what is read through. -/
lemma cons (h : i.readLine.result = .line line) (hkind : kind line = false)
    (hrest : ReadsThrough kind i.readLine.input j) : ReadsThrough kind i j := by
  obtain ⟨hlines, -, hfailure, hcount⟩ := supply_of_result_eq_line h
  have hitems := arrivals_of_result_eq_line h
  have hbytes : (Supply.ofArrivals i.arrivals).bytes =
      line ++ [newline] ++ (Supply.ofArrivals i.readLine.input.arrivals).bytes := by
    rw [hitems, Supply.ofArrivals_append]
  have hlength (bytes : Bytes) : (line ++ [newline] ++ bytes).length =
      line.length + 1 + bytes.length := by
    rw [List.length_append, List.length_append, List.length_singleton]
  rw [ReadsThrough, Supply.through?_of_lines_eq_cons kind hlines, if_neg (by simp [hkind])]
  rw [ReadsThrough] at hrest
  -- Whether there is a line of the kind is up to the rest of the input.
  cases hthrough : (Supply.ofArrivals i.readLine.input.arrivals).through? kind with
  | some bytes =>
    rw [hthrough] at hrest
    obtain ⟨hrest, htaken⟩ := hrest
    refine ⟨hitems.trans ?_, ?_⟩
    · rw [hrest, ← List.append_assoc, ← List.map_append]
    · rw [htaken, hcount, hlength, Nat.add_assoc]
  | none =>
    rw [hthrough] at hrest
    obtain ⟨hrest, hsuccess, htaken⟩ := hrest
    refine ⟨?_, hfailure.trans hsuccess, ?_⟩
    · rw [hbytes, List.map_append, List.append_assoc]
      rcases hrest with hend | ⟨hend, hnone⟩
      · exact Or.inl (hitems.trans (congrArg (_ ++ ·) hend))
      · exact Or.inr ⟨hitems.trans (congrArg (_ ++ ·) hend), hnone⟩
    · rw [htaken, hcount, hbytes, hlength, Nat.add_assoc]

end ReadsThrough

end Input

namespace Session

variable {β σ τ ℓ : Type} [Sink σ] [Sink τ] [Launcher ℓ]

/-! ### Runs -/

section

variable [HasHandler β] {table : Table β} {prompting : Bool} {input : Input} {s : Session σ τ ℓ}

/-- A run that reaches no turn that breaks down is a success. -/
lemma failure_eq_none_of_no_breakdown
    (h : ∀ i u e j t, Reaches table prompting (input, s) (i, u) →
      ¬ Breakdown table prompting i u e j t) : (s.run table prompting input).failure = none := by
  obtain ⟨i, u, hreach, ⟨e, j, t, hbreak⟩ | ⟨j, t, hfinish⟩⟩ :=
    exists_reaches_end table prompting input s
  · exact absurd hbreak (h i u e j t hreach)
  · have hrun : s.run table prompting input = ⟨none, j, t⟩ := hreach.run_eq.trans hfinish.run_eq
    rw [hrun]

/-- A run that is a success reaches no turn that breaks down. -/
lemma not_breakdown_of_failure_eq_none (h : (s.run table prompting input).failure = none)
    (i : Input) (u : Session σ τ ℓ) (e : IoError) (j : Input) (t : Session σ τ ℓ)
    (hreach : Reaches table prompting (input, s) (i, u)) :
    ¬ Breakdown table prompting i u e j t := by
  intro hbreak
  have hrun : s.run table prompting input = ⟨some (.io e), j, t⟩ :=
    hreach.run_eq.trans hbreak.run_eq
  rw [hrun] at h
  cases h

/-- If it can be told from a line whether it ends the loop, a run that is a success, and that the
interpreter survives, reads its input through the first line that does. -/
theorem readsThrough_run {stops : Bytes → Bool}
    (hstops : ∀ line (s : Session σ τ ℓ),
      (s.executeLine table line).1 = .stop ↔ stops line = true)
    (prompting : Bool) (input : Input) (s : Session σ τ ℓ)
    (hsuccess : (s.run table prompting input).failure = none)
    (halive : Launcher.departure? (s.run table prompting input).session.launcher = none) :
    input.ReadsThrough stops (s.run table prompting input).input := by
  revert hsuccess halive
  refine run_induction table prompting (motive := fun i _ r => r.failure = none →
    Launcher.departure? r.session.launcher = none → i.ReadsThrough stops r.input) ?_ ?_ ?_ input s
  · intro i s e j t hbreak hsuccess
    cases hsuccess
  · intro i s j t hfinish _ halive
    cases hfinish with
    | ended prompted ended => exact .of_ended ended
    | stopped prompted read executed alive flushed =>
      exact .of_line read ((hstops _ _).mp (congrArg Prod.fst executed))
    | departed prompted read executed dead =>
      rw [dead] at halive
      cases halive
  · intro i s j t hproceeds ih hsuccess halive
    obtain ⟨prompted, read, executed, alive, flushed⟩ := hproceeds
    refine .cons read ?_ (ih hsuccess halive)
    rw [Bool.eq_false_iff, ne_eq, ← hstops, executed]
    nofun

end

/-- Of the commands of every session just those end the loop whose first argument is `exit`,
whatever follows it, whatever the session is, and whatever its streams, its files and its launcher
answer.  So a run in which no prompt and no flush after a prompt or a command fails, and no read, is
a success; and if the interpreter survives it, it has read its input through the first complete line
whose first argument is `exit`, and not further, or to the first end if there is no such line. -/
theorem run_standard_readsThrough_exit (prompting : Bool) (input : Input) (s : Session σ τ ℓ) :
    (∀ (args : ArgVector) (s : Session σ τ ℓ),
      (s.execute Table.standard args).1 = .stop ↔ args.command? = some (utf8 "exit")) ∧
    ((∀ i u e j t, Reaches Table.standard prompting (input, s) (i, u) →
        ¬ Breakdown Table.standard prompting i u e j t) →
      let r := s.run Table.standard prompting input
      r.failure = none ∧
        (Launcher.departure? r.session.launcher = none →
          input.ReadsThrough (fun line => (ArgVector.ofLine line).asksToExit) r.input)) := by
  refine ⟨fun args s => ?_, fun hwell => ?_⟩
  · rw [execute_standard_eq_stop_iff, ArgVector.asksToExit, decide_eq_true_iff]
  · have hsuccess := failure_eq_none_of_no_breakdown hwell
    refine ⟨hsuccess, readsThrough_run (fun line s => ?_) prompting input s hsuccess⟩
    exact execute_standard_eq_stop_iff (.ofLine line) _

/-- An argument `exit` that is not the first one does not end the loop, and neither do streams that
accept nothing.  A quoted `exit` does, and nothing after its line is taken. -/
theorem run_standard_readsThrough_quoted_exit :
    let full : LimitedSink := ⟨some 0, some (.system .noSpace), none, false, 0, 0, none⟩
    let s := start full full (⟨[]⟩ : ScriptedLauncher) ⟨[], [], [], []⟩ .off
    let input := Input.ofBytes (utf8 "ls exit\n'exit' 1\nls\n")
    let r := s.run Table.standard false input
    r.failure = none ∧ r.input.consumed = 17 ∧
      r.input.arrivals = (utf8 "ls\n").map .byte := by
  intro full s input r
  have hsuccess : r.failure = none := by
    subst full s input r
    cbv
  obtain ⟨-, hrun⟩ := run_standard_readsThrough_exit false input s
  obtain ⟨-, hthrough⟩ := hrun (not_breakdown_of_failure_eq_none hsuccess)
  have hread : input.ReadsThrough (fun line => (ArgVector.ofLine line).asksToExit) r.input :=
    hthrough (by subst full s input r; cbv)
  have hbytes : (Supply.ofArrivals input.arrivals).through?
      (fun line => (ArgVector.ofLine line).asksToExit) =
        some (utf8 "ls exit\n'exit' 1\n") := by decide
  have hinput : input.arrivals =
      (utf8 "ls exit\n'exit' 1\n").map .byte ++ (utf8 "ls\n").map .byte := by decide
  rw [Input.ReadsThrough, hbytes] at hread
  obtain ⟨hitems, hcount⟩ := hread
  refine ⟨hsuccess, hcount, ?_⟩
  exact (List.append_cancel_left (hinput.symm.trans hitems)).symm

end Session

end CommandShell
