import CommandShell.Proofs.Blocks
import Mathlib.Data.List.TakeWhile

/-!
# Waiting until a process has ended

The answer to a wait says that there is nothing more to wait for (`WaitAnswer.Ends`), or that the
process goes on, or that the wait was interrupted.  Only the first kind ends the waiting, and it
does so at once.  So a launch comes to what the first answer of that kind says, and there are as
many waits as answers up to that one (`Attempt.ofAnswers_first_end`).

What one wait does to the result, to the count and to the records is said by
`Waited.ofAnswers_cons_of_ends` and `Waited.ofAnswers_cons_of_isUnfinished`; what many of them do
follows by induction on the answers that end nothing (`Waited.ofAnswers_append`).
-/

namespace CommandShell

namespace WaitAnswer

/-- An answer after which there is nothing more to wait for, and what the launch comes to by it. -/
inductive Ends : WaitAnswer → Except ShellError Outcome → Prop
  /-- The process has exited. -/
  | exited (status : Int) : Ends (.exited status) (.ok (.exited status))
  /-- A signal has ended the process. -/
  | signaled (signal : Signal) (coreDumped : Bool) :
      Ends (.signaled signal coreDumped) (.ok (.signaled signal))
  /-- The wait has failed, and not because it was interrupted. -/
  | failed {e : Errno} (h : e ≠ .interrupted) : Ends (.failed e) (.error (.wait e))

/-- Whether an answer says that the process has changed but goes on. -/
def isTransient : WaitAnswer → Bool
  | stopped _ | tracedEvent _ _ | tracedCall | continued | stillAlive => true
  | exited _ | signaled _ _ | failed _ => false

/-- Whether the process is waited for again after an answer. -/
def isUnfinished (a : WaitAnswer) : Bool :=
  a.isTransient || a = .failed .interrupted

/-- An answer that ends the waiting is final. -/
lemma Ends.finality_eq {a : WaitAnswer} {result : Except ShellError Outcome} (h : a.Ends result) :
    a.finality = .final result := by
  cases h with
  | exited status => rfl
  | signaled signal coreDumped => rfl
  | failed h => rw [finality, if_neg h]

/-- An answer that does not end the waiting says that the process goes on, or that the wait was
interrupted. -/
lemma finality_of_isUnfinished {a : WaitAnswer} (h : a.isUnfinished = true) :
    a.finality = if a.isTransient then .transient else .interrupted := by
  cases a with
  | failed e =>
    obtain rfl : e = .interrupted := by simpa [isUnfinished, isTransient] using h
    rfl
  | exited status => cases h
  | signaled signal coreDumped => cases h
  | stopped signal => rfl
  | tracedEvent signal event => rfl
  | tracedCall => rfl
  | continued => rfl
  | stillAlive => rfl

/-- An answer ends the waiting, or the process is waited for again. -/
lemma exists_ends_of_isUnfinished_eq_false {a : WaitAnswer} (h : a.isUnfinished = false) :
    ∃ result, a.Ends result := by
  cases a with
  | exited status => exact ⟨_, .exited status⟩
  | signaled signal coreDumped => exact ⟨_, .signaled signal coreDumped⟩
  | failed e =>
    have he : e ≠ .interrupted := by simpa [isUnfinished, isTransient] using h
    exact ⟨_, .failed he⟩
  | stopped signal => cases h
  | tracedEvent signal event => cases h
  | tracedCall => cases h
  | continued => cases h
  | stillAlive => cases h

/-- After an answer that ends the waiting the process is not waited for again. -/
lemma Ends.isUnfinished_eq_false {a : WaitAnswer} {result : Except ShellError Outcome}
    (h : a.Ends result) : a.isUnfinished = false := by
  cases h with
  | exited status => rfl
  | signaled signal coreDumped => rfl
  | failed h => simpa [isUnfinished, isTransient] using h

/-- If some answer ends the waiting, there is a first one that does, right after those that do
not. -/
lemma exists_first_end {waits : List WaitAnswer}
    (h : ∃ answer ∈ waits, ∃ result, answer.Ends result) :
    ∃ answer after, waits = waits.takeWhile isUnfinished ++ answer :: after ∧
      ∃ result, answer.Ends result := by
  -- What is left without the answers before the first end begins with that end.
  have hne : waits.dropWhile isUnfinished ≠ [] := by
    obtain ⟨answer, hmem, result, hends⟩ := h
    intro hnil
    have hall := List.dropWhile_eq_nil_iff.mp hnil answer hmem
    rw [hends.isUnfinished_eq_false] at hall
    cases hall
  obtain ⟨answer, after, hafter⟩ := List.exists_cons_of_ne_nil hne
  refine ⟨answer, after, ?_, exists_ends_of_isUnfinished_eq_false ?_⟩
  · rw [← hafter, List.takeWhile_append_dropWhile]
  · have hhead := List.head_dropWhile_not isUnfinished hne
    simpa [hafter] using hhead

end WaitAnswer

namespace Waited

variable {pid : Nat}

/-! ### One wait -/

/-- An answer that ends the waiting is the last one. -/
lemma ofAnswers_cons_of_ends {a : WaitAnswer} {result : Except ShellError Outcome}
    (h : a.Ends result) (rest : List WaitAnswer) : ofAnswers pid (a :: rest) = ⟨result, 1, []⟩ := by
  rw [ofAnswers, h.finality_eq]

/-- After any other answer there is one more wait, and a record if the process goes on. -/
lemma ofAnswers_cons_of_isUnfinished {a : WaitAnswer} (h : a.isUnfinished = true)
    (rest : List WaitAnswer) :
    ofAnswers pid (a :: rest) =
      ⟨(ofAnswers pid rest).result, (ofAnswers pid rest).waits + 1,
        ([a].filter WaitAnswer.isTransient).map (.unfinished pid) ++
          (ofAnswers pid rest).records⟩ := by
  rw [ofAnswers, WaitAnswer.finality_of_isUnfinished h]
  cases ht : a.isTransient with
  | true => simp [ht]
  | false => simp [ht]

/-! ### Many waits -/

/-- Answers that do not end the waiting have no part in the result.  Each is counted, and those that
say that the process goes on are recorded. -/
lemma ofAnswers_append {before : List WaitAnswer} (h : ∀ a ∈ before, a.isUnfinished = true)
    (rest : List WaitAnswer) :
    ofAnswers pid (before ++ rest) =
      ⟨(ofAnswers pid rest).result, (ofAnswers pid rest).waits + before.length,
        (before.filter WaitAnswer.isTransient).map (.unfinished pid) ++
          (ofAnswers pid rest).records⟩ := by
  induction before with
  | nil => rfl
  | cons a before ih =>
    obtain ⟨ha, hbefore⟩ := List.forall_mem_cons.mp h
    have hrecorded : (a :: before).filter WaitAnswer.isTransient =
        [a].filter WaitAnswer.isTransient ++ before.filter WaitAnswer.isTransient :=
      List.filter_append [a] before
    rw [List.cons_append, ofAnswers_cons_of_isUnfinished ha, ih hbefore, hrecorded, List.map_append,
      List.append_assoc]
    rfl

end Waited

namespace Attempt

variable {args : ArgVector} {answers : ArgBlock → KernelAnswers}

/-- Without a process there is nothing to wait for. -/
lemma ofAnswers_of_fork_eq_error (hblock : args.block = .ok (.ofArgs args)) {e : Errno}
    (hfork : (answers (.ofArgs args)).fork = .error e) :
    ofAnswers args answers = ⟨some (.ofArgs args), 0, .error (.fork e), []⟩ := by
  rw [ofAnswers, hblock]
  simp only [hfork]

/-- A process that was made is waited for. -/
lemma ofAnswers_of_fork_eq_ok (hblock : args.block = .ok (.ofArgs args)) {pid : Nat}
    (hfork : (answers (.ofArgs args)).fork = .ok pid) {w : Waited}
    (hwaited : Waited.ofAnswers pid (answers (.ofArgs args)).waits = w) :
    ofAnswers args answers = ⟨some (.ofArgs args), w.waits, w.result,
      .started (Text.display (args.headD [])) pid :: w.records⟩ := by
  rw [ofAnswers, hblock]
  simp only [hfork, hwaited]

/-- A process is asked for with arguments that can be given to a program.  If there is none, the
launch fails with the reason for that and nothing is waited for.  Otherwise the process is waited
for until the first answer that ends the waiting, and the launch comes to what that answer says,
whatever would be answered later: no other answer ends it, be it that the process goes on or that
the wait was interrupted.  There are as many waits as answers up to that one, and a record of each
answer before it that says that the process goes on, but none of interruptions. -/
theorem ofAnswers_first_end (args : ArgVector) (hname : args ≠ []) (hzero : ∀ arg ∈ args, 0 ∉ arg)
    (answers : ArgBlock → KernelAnswers) :
    let system := answers (.ofArgs args)
    let a := Attempt.ofAnswers args answers
    a.forked = some (.ofArgs args) ∧
    (∀ e, system.fork = .error e → a.result = .error (.fork e) ∧ a.waits = 0 ∧ a.records = []) ∧
    ∀ pid, system.fork = .ok pid → (∃ answer ∈ system.waits, ∃ result, answer.Ends result) →
      let before := system.waits.takeWhile WaitAnswer.isUnfinished
      ∃ answer after result, system.waits = before ++ answer :: after ∧ answer.Ends result ∧
        a.result = result ∧ a.waits = before.length + 1 ∧
        a.records = .started (Text.display (args.headD [])) pid ::
          (before.filter WaitAnswer.isTransient).map (.unfinished pid) := by
  intro system a
  have hblock : args.block = .ok (.ofArgs args) := ArgVector.block_eq_ok hname hzero
  refine ⟨forked_of_block_eq_ok hblock answers, ?_, ?_⟩
  · intro e hfork
    have ha : a = ⟨some (.ofArgs args), 0, .error (.fork e), []⟩ :=
      ofAnswers_of_fork_eq_error hblock hfork
    rw [ha]
    exact ⟨rfl, rfl, rfl⟩
  · intro pid hfork hfinal before
    obtain ⟨answer, after, hwaits, result, hends⟩ := WaitAnswer.exists_first_end hfinal
    have hbefore : ∀ x ∈ before, x.isUnfinished = true := fun x hx => List.mem_takeWhile_imp hx
    have hwaited : Waited.ofAnswers pid system.waits = ⟨result, 1 + before.length,
        (before.filter WaitAnswer.isTransient).map (.unfinished pid)⟩ := by
      rw [hwaits, Waited.ofAnswers_append hbefore, Waited.ofAnswers_cons_of_ends hends,
        List.append_nil]
    have ha : a = _ := ofAnswers_of_fork_eq_ok hblock hfork hwaited
    refine ⟨answer, after, result, hwaits, hends, ?_⟩
    rw [ha]
    exact ⟨rfl, Nat.add_comm 1 _, rfl⟩

/-- A wait is interrupted, the process is stopped and continued, and then it exits.  That is the
fourth answer, and what would be answered to a fifth wait does not count.  Where no process can be
made, none of this is asked for. -/
theorem ofAnswers_first_end_stopped :
    let waits : List WaitAnswer :=
      [.failed .interrupted, .stopped .tstp, .continued, .exited 3, .signaled .kill false]
    let a := Attempt.ofAnswers [utf8 "ls"] fun _ => ⟨.ok 7, waits⟩
    let b := Attempt.ofAnswers [utf8 "ls"] fun _ => ⟨.error .tryAgain, waits⟩
    a.result = .ok (.exited 3) ∧ a.waits = 4 ∧
      a.records = [.started (Text.display (utf8 "ls")) 7, .unfinished 7 (.stopped .tstp),
        .unfinished 7 .continued] ∧
      b.result = .error (.fork .tryAgain) ∧ b.waits = 0 := by
  intro waits a b
  have hfinal : ∃ answer ∈ waits, ∃ result, answer.Ends result :=
    ⟨.exited 3, by decide, _, .exited 3⟩
  obtain ⟨answer, after, result, hwaits, hends, hresult, hcount, hrecords⟩ :=
    (ofAnswers_first_end [utf8 "ls"] (by decide) (by decide)
      fun _ => ⟨.ok 7, waits⟩).2.2 7 rfl hfinal
  obtain ⟨hfailed, hnone, -⟩ := (ofAnswers_first_end [utf8 "ls"] (by decide) (by decide)
    fun _ => ⟨.error .tryAgain, waits⟩).2.1 .tryAgain rfl
  have hbefore : waits.takeWhile WaitAnswer.isUnfinished =
      [.failed .interrupted, .stopped .tstp, .continued] := by decide
  change waits = waits.takeWhile WaitAnswer.isUnfinished ++ answer :: after at hwaits
  rw [hbefore] at hwaits
  obtain ⟨rfl, -⟩ : .exited 3 = answer ∧ [.signaled .kill false] = after := by
    simpa [waits] using hwaits
  cases hends
  exact ⟨hresult, hcount, hrecords, hfailed, hnone⟩

end Attempt

end CommandShell
