import CommandShell.Machine
import CommandShell.Proofs.Blocks
import CommandShell.Proofs.Isolation
import Mathlib

/-!
# How launches end, and launches that do not

A launch goes on until it is decided: the launched process has ended and the interpreter is there to
learn of it, or a signal has ended the interpreter.  If the processes come to rest before that, it
is never decided, and the interpreter is stuck (`Machine.launcher_launch`).  A launch that does not
return has one of three reasons (`Machine.exists_reason_of_result_eq_none`), and one that does
leaves the interpreter as it was (`Machine.Sound.launch`), whatever was launched.

Both of the reasons that lie with the interpreter can be brought about by any process: if what it
does next is to send the signal `KILL` to the interpreter, its turn ends the interpreter
(`World.exists_step?_of_nextSignal?_kill`), and if it sends `STOP`, its turn stops it
(`World.exists_step?_of_nextSignal?_stop`).  Two shells that do so are followed up to that point;
what comes of it is by these facts.
-/

namespace CommandShell

namespace World

variable {programs : Programs} {reached : World → Bool} {w w' : World}

/-! ### Turns -/

/-- Once something is reached nobody has a turn any more. -/
lemma runUntil_of_reached (h : reached w = true) (n : Nat) : w.runUntil programs reached n = w := by
  cases n with
  | zero => rfl
  | succ n => rw [runUntil, if_pos h]

/-- Where no process has a turn, nothing happens. -/
lemma runUntil_of_quiet (h : w.step? programs = none) (n : Nat) :
    w.runUntil programs reached n = w := by
  cases n with
  | zero => rfl
  | succ n => rw [runUntil, h, ite_self]

/-- The first turn of several. -/
lemma runUntil_succ (hreached : reached w = false) (hstep : w.step? programs = some w') (n : Nat) :
    w.runUntil programs reached (n + 1) = w'.runUntil programs reached n := by
  rw [runUntil, if_neg (hreached ▸ Bool.false_ne_true), hstep]

/-- Turns can be given in two portions. -/
lemma runUntil_add (n k : Nat) (w : World) :
    w.runUntil programs reached (n + k) =
      (w.runUntil programs reached n).runUntil programs reached k := by
  induction n generalizing w with
  | zero => rw [Nat.zero_add, runUntil]
  | succ n ih =>
    rw [Nat.succ_add]
    cases hreached : reached w with
    | true => rw [runUntil_of_reached hreached, runUntil_of_reached hreached,
        runUntil_of_reached hreached]
    | false =>
      cases hstep : w.step? programs with
      | none => rw [runUntil_of_quiet hstep, runUntil_of_quiet hstep, runUntil_of_quiet hstep]
      | some w' => rw [runUntil_succ hreached hstep, runUntil_succ hreached hstep, ih]

/-- One more turn. -/
lemma runUntil_succ_of_eq {o : World} {n : Nat} (hruns : o.runUntil programs reached n = w)
    (hreached : reached w = false) (hstep : w.step? programs = some w') :
    o.runUntil programs reached (n + 1) = w' := by
  rw [runUntil_add, hruns, runUntil_succ hreached hstep, runUntil]

/-- The world after the process whose turn comes first was replaced by a program with a task. -/
def replaced (w : World) (path : Bytes) (image : Image) (task : Task) : World :=
  match w.nextTurn? with
  | some (t, p) =>
    let w := { w with now := max w.now t }
    let p := { p with
      descriptors := p.descriptors.filter (!·.withheld), watched := [], arrived := []
      executes := some image.place, args := image.args
      title := ((path.splitOn slash).getLastD []).take titleLimit }
    (w.put p).wake.proceed p.pid task loadCost
  | none => w

/-- A process that is to be replaced by a program is replaced by it if it can be loaded. -/
lemma step?_of_load {t : Nat} {p : Process} {path : Bytes} {args environment : List Bytes}
    {next : Errno → Task} {image : Image} (hnext : w.nextTurn? = some (t, p))
    (htask : p.task = .exec path args environment next)
    (hload : Image.load (w.filesFor p path) w.isWrittenTo path args environment = .ok image) :
    w.step? programs = some (w.replaced path image (programs image environment)) := by
  have hlater : Image.load (({ w with now := max w.now t } : World).filesFor p path)
      ({ w with now := max w.now t } : World).isWrittenTo path args environment = .ok image := hload
  rw [step?, replaced, hnext, Option.map_some]
  simp only [turn, htask, execOf, hlater]

/-! ### Signals to the interpreter -/

/-- The signal that is sent next, with the number of the process to which it is sent. -/
def nextSignal? (w : World) : Option (Int × Nat) :=
  w.nextTurn?.bind fun (_, p) => match p.task with
    | .call (.signal pid number) _ => some (pid, number)
    | _ => none

/-- The status with which a process exits next. -/
def nextExit? (w : World) : Option Nat :=
  w.nextTurn?.bind fun (_, p) => match p.task with
    | .exit status => some status
    | _ => none

/-- A signal for the number of a process is meant for the processes of that number. -/
lemma mem_addressees_iff {p : Process} {pid n : Nat} (hn : 0 < n) :
    pid ∈ w.addressees p n ↔ pid = n ∧ ∃ q ∈ w.processes, q.pid = n := by
  have hminus : (n : Int) ≠ -1 := by omega
  have hzero : (n : Int) ≠ 0 := by omega
  have hneg : ¬ (n : Int) < 0 := by omega
  simp only [addressees, hminus, hzero, hneg, if_false, Nat.cast_inj, List.mem_map, List.mem_filter,
    decide_eq_true_eq]
  constructor
  · rintro ⟨q, ⟨hq, hpid⟩, rfl⟩
    exact ⟨hpid, q, hq, hpid⟩
  · rintro ⟨rfl, q, hq, hpid⟩
    exact ⟨q, ⟨hq, hpid⟩, hpid⟩

end World

/-- How it stands with the process of a number: how it has ended, if it has, and whether it is
stopped. -/
def Process.Stands (h : Nat) (ending : Option Ending) (stopped : Bool) (ps : List Process) : Prop :=
  ∃ q, ps.find? (·.pid = h) = some q ∧ q.ending = ending ∧ q.stopped = stopped

namespace Process.Stands

instance (h : Nat) (ending : Option Ending) (stopped : Bool) (ps : List Process) :
    Decidable (Stands h ending stopped ps) :=
  decidable_of_iff
    ((ps.find? (·.pid = h)).any fun q => q.ending = ending ∧ q.stopped = stopped) <| by
      rw [Option.any_eq_true]
      simp only [decide_eq_true_eq]
      rfl

variable {h : Nat} {ending ending' : Option Ending} {stopped stopped' : Bool} {ps : List Process}
  (hps : Stands h ending stopped ps)
include hps

lemma exists_mem : ∃ q ∈ ps, q.pid = h := by
  obtain ⟨q, hq, -⟩ := hps
  exact ⟨q, List.mem_of_find?_eq_some hq, by simpa using List.find?_some hq⟩

/-- Some processes go and others are changed, each under its number, but the one of the number does
not go. -/
lemma filterMap {g : Process → Option Process} (hpid : ∀ q, ∀ q' ∈ g q, q'.pid = q.pid)
    (hstands : ∀ q, q.pid = h → q.ending = ending → q.stopped = stopped →
      ∃ q', g q = some q' ∧ q'.ending = ending' ∧ q'.stopped = stopped') :
    Stands h ending' stopped' (ps.filterMap g) := by
  obtain ⟨q, hq, hending, hstopped⟩ := hps
  obtain ⟨hfound, before, after, hsplit, hbefore⟩ := List.find?_eq_some_iff_append.mp hq
  obtain ⟨q', hg, hq'⟩ := hstands q (of_decide_eq_true hfound) hending hstopped
  have hfirst : ps.find? (fun a => (g a).any (·.pid = h)) = some q := by
    refine List.find?_eq_some_iff_append.mpr ⟨?_, before, after, hsplit, fun p hp => ?_⟩
    · rw [hg, Option.any_some, hpid q q' hg]
      exact hfound
    · rw [Bool.not_eq_true', Option.any_eq_false]
      intro p' hp'
      simpa [hpid p p' hp'] using hbefore p hp
  exact ⟨q', by rw [List.find?_filterMap, hfirst, Option.bind_some, hg], hq'⟩

/-- Each process is changed under its number. -/
lemma map {f : Process → Process} (hpid : ∀ q, (f q).pid = q.pid)
    (hstands : ∀ q, q.pid = h → q.ending = ending → q.stopped = stopped →
      (f q).ending = ending' ∧ (f q).stopped = stopped') :
    Stands h ending' stopped' (ps.map f) := by
  rw [← List.filterMap_eq_map]
  refine hps.filterMap (fun q q' hq' => ?_) fun q hq hending hstopped =>
    ⟨f q, rfl, hstands q hq hending hstopped⟩
  rw [← Option.some.inj hq', hpid]

end Process.Stands

namespace World

variable {programs : Programs} {w : World}

/-- The interpreter is the process of a number, and stands in a certain way. -/
structure HostIs (h : Nat) (ending : Option Ending) (stopped : Bool) (w : World) : Prop where
  host : w.host = h
  stands : Process.Stands h ending stopped w.processes

namespace HostIs

variable {h : Nat} {ending ending' : Option Ending} {stopped stopped' : Bool}

instance (h : Nat) (ending : Option Ending) (stopped : Bool) (w : World) :
    Decidable (HostIs h ending stopped w) :=
  decidable_of_iff (w.host = h ∧ Process.Stands h ending stopped w.processes)
    ⟨fun ⟨host, stands⟩ => ⟨host, stands⟩, fun ⟨host, stands⟩ => ⟨host, stands⟩⟩

/-- A process goes on. -/
lemma proceed (hw : HostIs h ending stopped w) (pid : Nat) (task : Task) (span : Nat) :
    HostIs h ending stopped (w.proceed pid task span) :=
  ⟨hw.host, hw.stands.map (fun q => by split <;> rfl) fun q _ he hs => by
    split <;> exact ⟨he, hs⟩⟩

/-- A process ends. If it is the interpreter, that has ended now. -/
lemma finish (hw : HostIs h none stopped w) (n : Nat) (e : Ending) :
    HostIs h (if h = n then some e else none) (if h = n then false else stopped)
      (w.finish n e) := by
  obtain ⟨g, hprocesses, hsome, hnone⟩ := w.exists_processes_finish n e
  refine ⟨hw.host, hprocesses ▸ hw.stands.filterMap (fun q q' hq' => (hsome q q' hq').pid)
    fun q hpid hending hstopped => ?_⟩
  cases hg : g q with
  | none =>
    rcases hnone q hg with ⟨-, hdead⟩ | ⟨hself, hother⟩
    · rw [Process.isAlive, hending] at hdead
      cases hdead
    · exact absurd (hself.symm.trans (hpid.trans hw.host.symm)) hother
  | some q' =>
    have hend := hsome q q' hg
    exact ⟨q', rfl, by rw [hend.ending, hpid, hending], by rw [hend.stopped, hpid, hstopped]⟩

/-- The signal `KILL` ends the interpreter. -/
lemma deliver_kill (hw : HostIs h none stopped w) :
    HostIs h (some (.killed Signal.kill.number)) false (w.deliver h Signal.kill.number) := by
  obtain ⟨q, hq, hending, -⟩ := hw.stands
  have halive : q.isAlive = true := by rw [Process.isAlive, hending, Option.isNone_none]
  have hcont : Signal.kill.number ≠ Signal.cont.number := by decide
  rw [deliver, process?, hq]
  simp only [halive, hcont, Bool.not_true, Bool.false_eq_true, if_false, if_true]
  simpa using hw.finish h (.killed Signal.kill.number)

/-- Nothing can be done to an interpreter that has ended. -/
lemma deliver_of_ended {e : Ending} (hw : HostIs h (some e) stopped w) (number : Nat) :
    w.deliver h number = w := by
  obtain ⟨q, hq, hending, -⟩ := hw.stands
  have hdead : q.isAlive = false := by rw [Process.isAlive, hending, Option.isNone_some]
  rw [deliver, process?, hq]
  simp only [hdead, Bool.not_false, if_true]

/-- The signal `STOP` stops the interpreter. -/
lemma deliver_stop (hw : HostIs h none stopped w) :
    HostIs h none true (w.deliver h Signal.stop.number) := by
  obtain ⟨q, hq, hending, hstopped⟩ := hw.stands
  have halive : q.isAlive = true := by rw [Process.isAlive, hending, Option.isNone_none]
  have hcont : Signal.stop.number ≠ Signal.cont.number := by decide
  have hkill : Signal.stop.number ≠ Signal.kill.number := by decide
  rw [deliver, process?, hq]
  simp only [halive, hcont, hkill, Bool.not_true, Bool.false_eq_true, if_false, if_true]
  rw [deliver.halt, hstopped]
  cases stopped with
  | true => exact hw
  | false =>
    have hnow : HostIs h none true (w.update q.pid fun p => { p with stopped := true }) := by
      rw [pid_of_process?_eq_some hq]
      refine ⟨hw.host, hw.stands.map (fun q => by split <;> rfl) fun q hpid he _ => ?_⟩
      rw [if_pos hpid]
      exact ⟨he, rfl⟩
    have htold : ∀ s : Signal, HostIs h none true
        ((w.update q.pid fun p => { p with stopped := true }).tellStop s) := fun s => by
      rw [tellStop]
      split <;> exact ⟨hnow.host, hnow.stands⟩
    simp only [Bool.false_eq_true, if_false]
    split
    · split
      · exact htold _
      · exact hnow
    · exact hnow

/-- A signal is sent to the interpreter, and what it does is not done again by another one. -/
lemma send {number : Nat} (hroot : rootPid < h) (hnumber : 0 < number) (hvalid : number ≤ 64)
    (hfirst : ∀ w, HostIs h ending stopped w → HostIs h ending' stopped' (w.deliver h number))
    (hagain : ∀ w, HostIs h ending' stopped' w → HostIs h ending' stopped' (w.deliver h number))
    (hw : HostIs h ending stopped w) (p : Process) :
    HostIs h ending' stopped' (w.send p h number).1 := by
  rw [rootPid] at hroot
  have hmeant : ∀ pid, pid ∈ w.addressees p h ↔ pid = h := fun pid => by
    rw [mem_addressees_iff (by omega), and_iff_left hw.stands.exists_mem]
  rw [World.send, if_neg (by rw [rootPid]; omega)]
  generalize w.addressees p h = found at hmeant
  split
  · cases (hmeant h).mpr rfl
  · rw [if_neg (by omega), if_neg (by omega)]
    dsimp only
    have hall : ∀ pid, pid ∈ found.filter (· ≠ p.pid) ++ found.filter (· = p.pid) ↔ pid = h := by
      intro pid
      rw [List.mem_append, List.mem_filter, List.mem_filter, ← and_or_left, hmeant]
      simp [ne_or_eq]
    generalize found.filter (· ≠ p.pid) ++ found.filter (· = p.pid) = pids at hall
    cases pids with
    | nil => cases (hall h).mpr rfl
    | cons pid others =>
      obtain rfl := (hall pid).mp (List.mem_cons_self ..)
      rw [List.foldl_cons]
      refine List.foldlRecOn others _ (hfirst w hw) fun w hw pid' hpid' => ?_
      rw [(hall pid').mp (List.mem_cons_of_mem _ hpid')]
      exact hagain w hw

/-- If the next that a process does is to send a signal to the interpreter, its turn does to the
interpreter what the signal does. -/
lemma exists_step?_of_nextSignal? {number : Nat} (hroot : rootPid < h) (hnumber : 0 < number)
    (hvalid : number ≤ 64)
    (hfirst : ∀ w, HostIs h ending stopped w → HostIs h ending' stopped' (w.deliver h number))
    (hagain : ∀ w, HostIs h ending' stopped' w → HostIs h ending' stopped' (w.deliver h number))
    (hw : HostIs h ending stopped w) (hnext : w.nextSignal? = some ((h : Int), number)) :
    ∃ w', w.step? programs = some w' ∧ HostIs h ending' stopped' w' := by
  obtain ⟨⟨t, p⟩, hturn, hsignal⟩ := Option.bind_eq_some_iff.mp hnext
  refine ⟨_, by rw [step?, hturn, Option.map_some], ?_⟩
  dsimp only at hsignal
  split at hsignal
  · next pid number' next htask =>
    cases hsignal
    have hlater : HostIs h ending stopped { w with now := max w.now t } := ⟨hw.host, hw.stands⟩
    simp only [turn, htask]
    exact proceed (send hroot hnumber hvalid hfirst hagain hlater p) _ _ _
  · cases hsignal

/-- If the next that a process does is to exit, the interpreter stands as it did. -/
lemma exists_step?_of_nextExit? {status : Nat} (hw : HostIs h none stopped w)
    (hnext : w.nextExit? = some status) :
    ∃ w', w.step? programs = some w' ∧ HostIs h none stopped w' := by
  obtain ⟨⟨t, p⟩, hturn, hexit⟩ := Option.bind_eq_some_iff.mp hnext
  refine ⟨_, by rw [step?, hturn, Option.map_some], ?_⟩
  have hother : h ≠ p.pid := fun hself =>
    (mem_of_nextTurn?_eq_some hturn).2 (hself.symm.trans hw.host.symm)
  dsimp only at hexit
  split at hexit
  · next status' htask =>
    have hlater : HostIs h none stopped { w with now := max w.now t } := ⟨hw.host, hw.stands⟩
    simp only [turn, htask]
    simpa only [if_neg hother] using hlater.finish p.pid (.exited (status' % 256))
  · cases hexit

end HostIs

/-- A process that sends `KILL` to the interpreter ends it. -/
theorem exists_step?_of_nextSignal?_kill {h : Nat} {stopped : Bool} (hw : HostIs h none stopped w)
    (hroot : rootPid < h) (hnext : w.nextSignal? = some ((h : Int), Signal.kill.number)) :
    ∃ w', w.step? programs = some w' ∧ HostIs h (some (.killed Signal.kill.number)) false w' :=
  hw.exists_step?_of_nextSignal? hroot (by decide) (by decide) (fun _ hw => hw.deliver_kill)
    (fun w hw => (hw.deliver_of_ended Signal.kill.number).symm ▸ hw) hnext

/-- A process that sends `STOP` to the interpreter stops it. -/
theorem exists_step?_of_nextSignal?_stop {h : Nat} {stopped : Bool} (hw : HostIs h none stopped w)
    (hroot : rootPid < h) (hnext : w.nextSignal? = some ((h : Int), Signal.stop.number)) :
    ∃ w', w.step? programs = some w' ∧ HostIs h none true w' :=
  hw.exists_step?_of_nextSignal? hroot (by decide) (by decide) (fun _ hw => hw.deliver_stop)
    (fun _ hw => hw.deliver_stop) hnext

namespace HostIs

variable {h : Nat} {stopped : Bool}

/-- An interpreter that a signal has ended. -/
lemma killer?_eq {signal : Nat} (hw : HostIs h (some (.killed signal)) stopped w) :
    w.killer? = some signal := by
  obtain ⟨q, hq, hending, -⟩ := hw.stands
  rw [killer?, process?, hw.host, hq, Option.bind_some, hending]

lemma killer?_eq_none (hw : HostIs h none stopped w) : w.killer? = none := by
  obtain ⟨q, hq, hending, -⟩ := hw.stands
  rw [killer?, process?, hw.host, hq, Option.bind_some, hending]

/-- To an interpreter that has ended nothing returns any more. -/
lemma hasReturned_of_ended {e : Ending} (hw : HostIs h (some e) stopped w) :
    w.hasReturned = false := by
  obtain ⟨q, hq, hending, -⟩ := hw.stands
  rw [hasReturned, process?, hw.host, hq]
  simp only [Process.isAlive, hending, Option.isNone_some, Bool.false_and]

/-- Neither does it to one that is stopped. -/
lemma hasReturned_of_stopped {ending : Option Ending} (hw : HostIs h ending true w) :
    w.hasReturned = false := by
  obtain ⟨q, hq, -, hstopped⟩ := hw.stands
  rw [hasReturned, process?, hw.host, hq]
  simp only [hstopped, Bool.not_true, Bool.and_false, Bool.false_and]

/-- While it is stopped, it is not known what comes of a launch. -/
lemma isDecided_of_stopped (hw : HostIs h none true w) : w.isDecided = false := by
  rw [isDecided, hw.hasReturned_of_stopped, hw.killer?_eq_none, Option.isSome_none, Bool.or_self]

end HostIs

end World

namespace Machine

open World (HostIs rootPid)

variable {m : Machine} {files : FileSystem} {args : ArgVector} {block : ArgBlock}

/-! ### What comes of a launch -/

/-- What comes of the launch of a program with arguments that a process can be given. -/
lemma launcher_launch (hblock : args.block = .ok block) :
    let w := m.live files block.strings
    (Launcher.launch m files args).launcher =
      if w.hasReturned then { m with world := w.reaped, departure := none }
      else { m with world := w, departure := some w.departure } := by
  change (m.launch files args).launcher = _
  rw [launch, hblock]
  dsimp only
  split <;> rfl

lemma result_launch_eq_none_iff (hblock : args.block = .ok block) :
    (Launcher.launch m files args).result = none ↔
      (m.live files block.strings).hasReturned = false := by
  change (m.launch files args).result = none ↔ _
  rw [launch, hblock]
  dsimp only
  cases (m.live files block.strings).hasReturned <;> simp

/-- If the interpreter is ended by a signal before the launch is decided, it departs so. -/
lemma departure?_launch_of_killed (hblock : args.block = .ok block) {n h signal : Nat}
    {stopped : Bool} {w : World} (hn : n ≤ World.turns)
    (hruns : (m.launched files block.strings).runUntil programs World.isDecided n = w)
    (hw : HostIs h (some (.killed signal)) stopped w) :
    Launcher.departure? (Launcher.launch m files args).launcher = some (.killed signal) := by
  obtain ⟨k, hturns⟩ := Nat.exists_eq_add_of_le hn
  have hdecided : w.isDecided = true := by
    rw [World.isDecided, hw.killer?_eq, Option.isSome_some, Bool.or_true]
  have hlive : m.live files block.strings = w := by
    rw [live, hturns, World.runUntil_add, hruns, World.runUntil_of_reached hdecided]
  rw [launcher_launch hblock, hlive, hw.hasReturned_of_ended, if_neg Bool.false_ne_true]
  change some w.departure = _
  rw [World.departure, hw.killer?_eq]

/-- If the processes come to rest while the interpreter is stopped, it is stuck. -/
lemma departure?_launch_of_stopped (hblock : args.block = .ok block) {n h : Nat} {w : World}
    (hn : n ≤ World.turns)
    (hruns : (m.launched files block.strings).runUntil programs World.isDecided n = w)
    (hw : HostIs h none true w) (hquiet : w.step? programs = none) :
    Launcher.departure? (Launcher.launch m files args).launcher = some .stuck := by
  obtain ⟨k, hturns⟩ := Nat.exists_eq_add_of_le hn
  have hlive : m.live files block.strings = w := by
    rw [live, hturns, World.runUntil_add, hruns, World.runUntil_of_quiet hquiet]
  rw [launcher_launch hblock, hlive, hw.hasReturned_of_stopped, if_neg Bool.false_ne_true]
  change some w.departure = _
  rw [World.departure, hw.killer?_eq_none]

/-! ### What launches keep -/

/-- The interpreter is a process of the world, the only one of its number, and has not ended. -/
def Sound (m : Machine) : Prop :=
  ∃ h, m.world.Keeps h m.world ∧ h.isAlive = true

/-- So it is in the beginning. -/
lemma sound_usual : usual.Sound := by
  refine ⟨World.start.processes.head (by decide), ?_, rfl⟩
  have honly : ∀ q ∈ World.start.processes, q = World.start.processes.head (by decide) :=
    fun q hq => List.mem_singleton.mp hq
  exact
    { host := rfl, first := rfl, unmade := rfl, here := ⟨_, List.mem_singleton_self _, rfl⟩
      alone := fun q hq _ => honly q hq ▸ Process.LeftAlone.refl _
      numbered := fun q hq => honly q hq ▸ (by decide : rootPid < World.hostPid)
      next := Nat.lt_succ_self _, now := le_rfl, written := List.suffix_refl _ }

/-- What is said of the interpreter does not depend on the files. -/
lemma keeps_entered {w : World} {h : Process} (hk : w.Keeps h w) (files : FileSystem) :
    (w.entered files).Keeps h (w.entered files) := by
  have hbegun : World.Keeps { w with files := files, written := [], reports := [] } h
      { w with files := files, written := [], reports := [] } :=
    { hk with written := List.suffix_refl _ }
  refine World.Keeps.renew (o := { w with files := files, written := [], reports := [] }) ?_
  rw [World.entered]
  refine List.foldlRecOn _ _ ?_ fun w hw e _ => hw.alike rfl rfl
  exact hbegun.update_of_leftAlone (fun _ => rfl) fun q hq => hq.unchosen _ _ _ _ _ _ _

/-- The process that is launched is not the interpreter, of which all that is said still holds. -/
lemma keeps_launched {h : Process} (hk : m.world.Keeps h m.world) (files : FileSystem)
    (args : List Bytes) :
    (m.launched files args).Keeps h (m.launched files args) ∧
      h.pid < (m.launched files args).first := by
  have hentered := keeps_entered hk files
  obtain ⟨host, hhost, -⟩ := hentered.exists_process?_eq
  rw [launched, World.spawned, hhost]
  exact ⟨{ (hentered.made rfl).renew with first := rfl }, hentered.next⟩

/-- All that is said of the interpreter holds to the end of a launch. -/
theorem keeps_live {h : Process} (hk : m.world.Keeps h m.world) (files : FileSystem)
    (args : List Bytes) : (m.launched files args).Keeps h (m.live files args) :=
  (keeps_launched hk files args).1.runUntil programs World.isDecided World.turns

/-- A launch that does not return has a reason: a signal has ended the interpreter, or it is
stopped, or the launched process has not ended. -/
theorem exists_reason_of_result_eq_none (hsound : m.Sound) (hblock : args.block = .ok block)
    (hresult : (Launcher.launch m files args).result = none) :
    let w := m.live files block.strings
    ∃ q, w.process? w.host = some q ∧ ((∃ signal, q.ending = some (.killed signal)) ∨
      q.stopped = true ∨ ∃ p, w.process? w.first = some p ∧ p.isAlive = true) := by
  intro w
  obtain ⟨h, hk, halive⟩ := hsound
  obtain ⟨q, hq, hleft⟩ := (keeps_live hk files block.strings).exists_process?_eq
  refine ⟨q, hq, ?_⟩
  have hwaits : w.hasReturned = false := by
    rwa [result_launch_eq_none_iff hblock] at hresult
  rw [World.hasReturned, hq] at hwaits
  dsimp only at hwaits
  cases hended : q.isAlive with
  | false => exact Or.inl (hleft.exists_killed halive hended)
  | true =>
    cases hstopped : q.stopped with
    | true => exact Or.inr (Or.inl rfl)
    | false =>
      rw [hended, hstopped, Bool.not_false, Bool.and_true, Bool.true_and, Option.all_eq_false]
        at hwaits
      obtain ⟨p, hp, hlives⟩ := hwaits
      exact Or.inr (Or.inr ⟨p, hp, by simpa using hlives⟩)

/-- After a launch that has returned, the interpreter is there as before. -/
theorem Sound.launch (hsound : m.Sound) (hresult : (Launcher.launch m files args).result ≠ none) :
    Machine.Sound (Launcher.launch m files args).launcher := by
  obtain ⟨h, hk, halive⟩ := hsound
  cases hblock : args.block with
  | error e =>
    have hsame : (Launcher.launch m files args).launcher = m := by
      change (m.launch files args).launcher = m
      rw [Machine.launch, hblock]
    exact hsame.symm ▸ ⟨h, hk, halive⟩
  | ok block =>
    rw [Ne, result_launch_eq_none_iff hblock, Bool.not_eq_false] at hresult
    rw [launcher_launch hblock, if_pos hresult]
    generalize hlive : m.live files block.strings = w at hresult
    have hkeeps : World.Keeps _ h w := hlive ▸ keeps_live hk files block.strings
    obtain ⟨q, hq, hleft⟩ := hkeeps.exists_process?_eq
    have hlives : q.isAlive = true := by
      rw [World.hasReturned, hq] at hresult
      simp only [Bool.and_eq_true] at hresult
      exact hresult.1.1
    have hpid : q.pid = h.pid := (World.pid_of_process?_eq_some hq).trans hkeeps.host
    have hother : w.first ≠ q.pid := by
      rw [hkeeps.first, hpid]
      exact (keeps_launched hk files block.strings).2.ne'
    have hremaining : w.Keeps q { w with processes := w.processes.filter (·.pid ≠ w.first) } :=
      (hkeeps.rebase hq hlives).of_filter rfl rfl fun p _ hp =>
        decide_eq_true (hp.trans_ne hother.symm)
    exact ⟨q, { hremaining.renew with first := rfl }, hlives⟩

/-! ### Two shells -/

/-- The files among which the interpreter starts. -/
def installed : FileSystem :=
  ⟨installation, [utf8 "tmp"], [], []⟩

/-- A shell that sends a signal to the process by which it was launched. -/
def signaling (signal : String) : ArgVector :=
  [utf8 "/bin/sh", utf8 "-c", utf8 ("kill$\x7bIFS\x7d-" ++ signal ++ "$\x7bIFS\x7d$PPID")]

/-- What is loaded for a shell. -/
def shellImage (args : List Bytes) : Image :=
  ⟨"dash", [utf8 "usr", utf8 "bin", utf8 "dash"], args⟩

/-- What the programs that the interpreter launches find in their environment. -/
def usualEnvironment : List Bytes :=
  [utf8 "LC_ALL=C", utf8 "PATH=/usr/bin:/bin"]

/-- The world when a shell was launched and loaded. -/
def shellLoaded (args : List Bytes) : World :=
  (usual.launched installed args).replaced (utf8 "/bin/sh") (shellImage args)
    (programs (shellImage args) usualEnvironment)

/-- The world when such a shell has found out what it is to do. -/
def shellReady (args : List Bytes) : World :=
  (shellLoaded args).runUntil programs World.isDecided 3

/-- The turns that lead there. -/
lemma runUntil_launched (signal : String)
    (hload : Image.load installed (fun _ => false) (utf8 "/bin/sh") (signaling signal)
      usualEnvironment = .ok (shellImage (signaling signal))) :
    (usual.launched installed (signaling signal)).runUntil programs World.isDecided 4 =
      shellReady (signaling signal) := by
  have hstep : (usual.launched installed (signaling signal)).step? programs =
      some (shellLoaded (signaling signal)) :=
    World.step?_of_load (t := 0) rfl rfl hload
  exact World.runUntil_succ rfl hstep 3

/-- The arguments of such a shell can be given to a process. -/
lemma block_signaling (signal : String) (hzero : ∀ arg ∈ signaling signal, 0 ∉ arg) :
    ∃ block, (signaling signal).block = .ok block ∧ block.strings = signaling signal :=
  ⟨_, ArgVector.block_eq_ok (List.cons_ne_nil _ _) hzero, ArgBlock.strings_ofArgs hzero⟩

/-- A shell can end the interpreter. -/
theorem departure?_launch_killing :
    Launcher.departure? (Launcher.launch usual installed (signaling "9")).launcher =
      some (.killed 9) := by
  obtain ⟨block, hblock, hstrings⟩ := block_signaling "9" (by decide)
  have hready := runUntil_launched "9" (by cbv)
  have hstands : HostIs 4000 none false (shellReady (signaling "9")) := by decide +kernel
  have hundecided : (shellReady (signaling "9")).isDecided = false := by decide +kernel
  have hsignal : (shellReady (signaling "9")).nextSignal? =
      some (((4000 : Nat) : Int), Signal.kill.number) := by decide +kernel
  obtain ⟨w, hstep, hkilled⟩ :=
    World.exists_step?_of_nextSignal?_kill hstands (by decide) hsignal
  refine departure?_launch_of_killed hblock (n := 5) (by decide) ?_ hkilled
  rw [hstrings]
  exact World.runUntil_succ_of_eq hready hundecided hstep

/-- A shell can stop the interpreter, so that what it then does, which is to exit, is never learned
of. -/
theorem departure?_launch_stopping :
    Launcher.departure? (Launcher.launch usual installed (signaling "STOP")).launcher =
      some .stuck := by
  obtain ⟨block, hblock, hstrings⟩ := block_signaling "STOP" (by decide)
  have hready := runUntil_launched "STOP" (by cbv)
  have hstands : HostIs 4000 none false (shellReady (signaling "STOP")) := by decide +kernel
  have hundecided : (shellReady (signaling "STOP")).isDecided = false := by decide +kernel
  have hsignal : (shellReady (signaling "STOP")).nextSignal? =
      some (((4000 : Nat) : Int), Signal.stop.number) := by decide +kernel
  obtain ⟨w, hstep, hstopped⟩ :=
    World.exists_step?_of_nextSignal?_stop hstands (by decide) hsignal
  have hruns := World.runUntil_succ_of_eq hready hundecided hstep
  have hexit : w.nextExit? = some 0 := by
    have hnext : ((shellReady (signaling "STOP")).step? programs).bind World.nextExit? =
        some 0 := by decide +kernel
    rwa [hstep, Option.bind_some] at hnext
  obtain ⟨w', hstep', hstopped'⟩ := hstopped.exists_step?_of_nextExit? hexit
  have hruns' := World.runUntil_succ_of_eq hruns hstopped.isDecided_of_stopped hstep'
  have hquiet : w'.step? programs = none := by
    have hlast : ((((shellReady (signaling "STOP")).step? programs).bind
        (World.step? programs)).bind (World.step? programs)).isNone = true := by decide +kernel
    rwa [hstep, Option.bind_some, hstep', Option.bind_some, Option.isNone_iff_eq_none] at hlast
  refine departure?_launch_of_stopped hblock (n := 6) (by decide) ?_ hstopped' hquiet
  rw [hstrings]
  exact hruns'

end Machine

end CommandShell
