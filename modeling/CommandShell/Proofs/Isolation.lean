import CommandShell.Machine.Schedule
import Mathlib

/-!
# Processes are kept apart

Whatever programs a system has, and whatever their processes call, they do not get at the process of
the interpreter.  It keeps its place among the processes, what it has open, and all that it has
chosen for itself, and if it ends, a signal has ended it (`Process.LeftAlone`).  Nothing that was
written is taken back, and time does not go back either (`World.Keeps`).

Each call goes through one of a few changes: the process that calls is put in the place where it
was, processes that wait are woken, a process ends or gets a signal, or something else than the
processes changes.  Each of these keeps the interpreter, so a turn does (`World.Keeps.step?`), and
with that any number of turns (`World.Keeps.runUntil`).
-/

namespace CommandShell

/-! ### What becomes of a process -/

namespace Process

/-- What the end of the process of a number makes of a process. -/
structure AfterEnd (n : Nat) (e : Ending) (q q' : Process) : Prop where
  pid : q'.pid = q.pid
  parent : q'.parent = if q.parent = n then World.rootPid else q.parent
  group : q'.group = q.group
  mask : q'.mask = q.mask
  ignored : q'.ignored = q.ignored
  watched : q'.watched = q.watched
  withheld : q'.withheld = q.withheld
  limits : q'.limits = q.limits
  descriptors : q'.descriptors = if q.pid = n then [] else q.descriptors
  ending : q'.ending = if q.pid = n then some e else q.ending
  stopped : q'.stopped = if q.pid = n then false else q.stopped

/-- A process has become another one without a hand in it: what it has chosen for itself is the
same, and if it has ended in the meantime, a signal has ended it. -/
structure LeftAlone (h q : Process) : Prop where
  parent : q.parent = h.parent
  group : q.group = h.group
  mask : q.mask = h.mask
  ignored : q.ignored = h.ignored
  watched : q.watched = h.watched
  withheld : q.withheld = h.withheld
  limits : q.limits = h.limits
  descriptors : q.isAlive = true → q.descriptors = h.descriptors
  ending : q.ending = h.ending ∨ ∃ signal, q.ending = some (.killed signal)

namespace LeftAlone

variable {h q q' : Process}

lemma refl (h : Process) : LeftAlone h h :=
  ⟨rfl, rfl, rfl, rfl, rfl, rfl, rfl, fun _ => rfl, Or.inl rfl⟩

/-- A process ends: another one, or this one by a signal. -/
lemma afterEnd (hq : h.LeftAlone q) {n : Nat} {e : Ending} (hend : q.AfterEnd n e q')
    (hparent : q.parent ≠ n) (hkilled : q.pid = n → ∃ signal, e = .killed signal) :
    h.LeftAlone q' where
  parent := by rw [hend.parent, if_neg hparent, hq.parent]
  group := hend.group.trans hq.group
  mask := hend.mask.trans hq.mask
  ignored := hend.ignored.trans hq.ignored
  watched := hend.watched.trans hq.watched
  withheld := hend.withheld.trans hq.withheld
  limits := hend.limits.trans hq.limits
  descriptors halive := by
    rw [isAlive, hend.ending] at halive
    rw [hend.descriptors]
    split at halive
    · cases halive
    · next hother => rw [if_neg hother, hq.descriptors halive]
  ending := by
    rw [hend.ending]
    split
    · next hself =>
      obtain ⟨signal, rfl⟩ := hkilled hself
      exact Or.inr ⟨signal, rfl⟩
    · exact hq.ending

/-- A process does not choose when it goes on, which signals it gets, and where a directory or what
it executes is moved. -/
lemma unchosen (hq : h.LeftAlone q) (ready : Nat) (blocked stopped : Bool)
    (arrived waiting : List Nat) (directory : Path) (executes : Option Path) : h.LeftAlone
      { q with ready, blocked, stopped, arrived, waiting, directory, executes } :=
  ⟨hq.parent, hq.group, hq.mask, hq.ignored, hq.watched, hq.withheld, hq.limits, hq.descriptors,
    hq.ending⟩

/-- What a process was left as is as good to begin with, as long as it is alive. -/
lemma of_isAlive (hq : h.LeftAlone q) (halive : q.isAlive = true) (hq' : h.LeftAlone q') :
    q.LeftAlone q' where
  parent := hq'.parent.trans hq.parent.symm
  group := hq'.group.trans hq.group.symm
  mask := hq'.mask.trans hq.mask.symm
  ignored := hq'.ignored.trans hq.ignored.symm
  watched := hq'.watched.trans hq.watched.symm
  withheld := hq'.withheld.trans hq.withheld.symm
  limits := hq'.limits.trans hq.limits.symm
  descriptors halive' := (hq'.descriptors halive').trans (hq.descriptors halive).symm
  ending := by
    have hbegun : q.ending = h.ending := hq.ending.resolve_right fun ⟨signal, hsignal⟩ => by
      rw [isAlive, hsignal] at halive
      cases halive
    rw [hbegun]
    exact hq'.ending

/-- A process that has ended in the meantime was ended by a signal. -/
lemma exists_killed (hq : h.LeftAlone q) (halive : h.isAlive = true) (hended : q.isAlive = false) :
    ∃ signal, q.ending = some (.killed signal) := by
  refine hq.ending.resolve_left fun hsame => ?_
  rw [isAlive, hsame, ← isAlive, halive] at hended
  cases hended

end LeftAlone

end Process

/-- The world that a call leads to has a property, whatever comes of the call. -/
def Served.Leads {α : Type} (P : World → Prop) : Served α → Prop
  | answered w _ => P w
  | blocked w _ => P w
  | partly w _ => P w
  | signaled w _ _ => P w

lemma Served.Leads.ite {α : Type} {P : World → Prop} {c : Prop} [Decidable c] {s s' : Served α}
    (h : s.Leads P) (h' : s'.Leads P) : (if c then s else s').Leads P := by
  split
  · exact h
  · exact h'

namespace World

lemma pid_of_process?_eq_some {w : World} {pid : Nat} {q : Process} (h : w.process? pid = some q) :
    q.pid = pid :=
  of_decide_eq_true (List.find?_eq_some_iff_append.mp h).1

/-- An end changes each process on its own. Those go that nobody will ask for any more, but not the
interpreter. -/
lemma exists_processes_finish (w : World) (n : Nat) (e : Ending) :
    ∃ g : Process → Option Process, (w.finish n e).processes = w.processes.filterMap g ∧
      (∀ q, ∀ q' ∈ g q, q.AfterEnd n e q') ∧
      ∀ q, g q = none → (q.parent = n ∧ q.isAlive = false) ∨ (q.pid = n ∧ n ≠ w.host) := by
  let stays := fun q : Process => !(q.parent = n && !q.isAlive)
  let orphan := fun q : Process => if q.parent = n then { q with parent := 1 } else q
  let wanted : Bool := n = w.first || n = w.host ||
    ((w.processes.filter stays).map orphan).any fun q => q.isAlive && w.isChild n q.pid
  let ended := fun q : Process =>
    if q.pid ≠ n then some q
    else if wanted then
      some { q with ending := some e, descriptors := [], blocked := false, stopped := false }
    else none
  let told := fun q : Process => if q.watched.contains Signal.chld.number ∧ w.isChild n q.pid then
    q.remember Signal.chld.number w.now else q
  let woken := fun q : Process =>
    if q.blocked then { q with blocked := false, ready := max q.ready w.now } else q
  have horphan : ∀ q, orphan q = { q with parent := if q.parent = n then 1 else q.parent } := by
    intro q
    simp only [orphan]
    split <;> rfl
  have hlater : ∀ q, ∃ arrived blocked ready,
      woken (told q) = { q with arrived, blocked, ready } := by
    intro q
    simp only [woken, told]
    split <;> split <;> exact ⟨_, _, _, rfl⟩
  refine ⟨fun q => if stays q then (ended (orphan q)).map (woken ∘ told) else none, ?_, ?_, ?_⟩
  · change ((((w.processes.filter stays).map orphan).filterMap ended).map told).map woken = _
    rw [List.map_map, List.filterMap_map, List.map_filterMap, List.filterMap_filter]
    rfl
  · intro q q' hq'
    simp only [horphan] at hq'
    split at hq'
    · obtain ⟨q'', hq'', rfl⟩ := Option.map_eq_some_iff.mp hq'
      obtain ⟨arrived, blocked, ready, hnow⟩ := hlater q''
      rw [Function.comp_apply, hnow]
      simp only [ended] at hq''
      split at hq''
      · next hpid =>
        cases hq''
        constructor <;> simp [hpid, rootPid]
      · next hpid =>
        split at hq''
        · cases hq''
          constructor <;> simp [not_not.mp hpid, rootPid]
        · cases hq''
    · cases hq'
  · intro q hq
    simp only [horphan] at hq
    split at hq
    · have hended := Option.map_eq_none_iff.mp hq
      simp only [ended] at hended
      split at hended
      · cases hended
      · next hpid =>
        split at hended
        · cases hended
        · next hunwanted =>
          refine Or.inr ⟨not_not.mp hpid, fun hhost => hunwanted ?_⟩
          simp [wanted, hhost]
    · next hgoes => exact Or.inl (by simpa [stays] using hgoes)

/-- The next turn is that of a process which is not the interpreter. -/
lemma mem_of_nextTurn?_eq_some {w : World} {t : Nat} {p : Process}
    (hturn : w.nextTurn? = some (t, p)) : p ∈ w.processes ∧ p.pid ≠ w.host := by
  have hall : ∀ x ∈ w.nextTurn?, x.2 ∈ w.processes ∧ w.turnTime? x.2 = some x.1 := by
    rw [nextTurn?]
    refine List.foldlRecOn (motive := fun best : Option (Nat × Process) =>
      ∀ x ∈ best, x.2 ∈ w.processes ∧ w.turnTime? x.2 = some x.1) w.processes _ (by simp)
      fun best hbest p hp => ?_
    cases htime : w.turnTime? p with
    | none => exact hbest
    | some t =>
      cases best with
      | none => simp [hp, htime]
      | some earliest =>
        dsimp only
        split
        · simp [hp, htime]
        · exact hbest
  obtain ⟨hp, htime⟩ := hall _ hturn
  refine ⟨hp, fun hhost => ?_⟩
  rw [turnTime?, if_pos (by simp [hhost])] at htime
  cases htime

/-! ### What is kept of an earlier world -/

/-- What a world keeps of an earlier one: the interpreter, which is still there and was left alone,
all that was written, and the time that has passed. -/
structure Keeps (o : World) (h : Process) (w : World) : Prop where
  host : w.host = h.pid
  first : w.first = o.first
  /-- The interpreter is nobody's child. -/
  unmade : h.parent = rootPid
  here : ∃ q ∈ w.processes, q.pid = h.pid
  alone : ∀ q ∈ w.processes, q.pid = h.pid → h.LeftAlone q
  /-- No process has the number of the one that nobody made. -/
  numbered : ∀ q ∈ w.processes, rootPid < q.pid
  next : h.pid < w.nextPid
  now : o.now ≤ w.now
  written : o.written <:+ w.written

/-- What there is to be kept beside the processes. -/
structure Outline where
  host : Nat
  first : Nat
  nextPid : Nat
  now : Nat
  written : List (Channel × Bytes)

/-- A world with neither the processes nor what they share. -/
def outline (w : World) : Outline :=
  ⟨w.host, w.first, w.nextPid, w.now, w.written⟩

namespace Keeps

variable {o w w' : World} {h p : Process}

/-! ### Changes of the processes -/

section

variable (hk : Keeps o h w)
include hk

/-- What is kept can be begun with. -/
lemma renew : Keeps w h w :=
  { hk with first := rfl, now := le_rfl, written := List.suffix_refl _ }

/-- The interpreter as it was left. -/
lemma exists_process?_eq : ∃ q, w.process? w.host = some q ∧ h.LeftAlone q := by
  obtain ⟨q, hq, hpid⟩ := hk.here
  have hfound : (w.process? w.host).isSome := by
    rw [process?, List.find?_isSome]
    exact ⟨q, hq, decide_eq_true (hpid.trans hk.host.symm)⟩
  obtain ⟨q', hq'⟩ := Option.isSome_iff_exists.mp hfound
  exact ⟨q', hq', hk.alone q' (List.mem_of_find?_eq_some hq')
    ((pid_of_process?_eq_some hq').trans hk.host)⟩

/-- What is kept can be begun with, and the interpreter as it was left. -/
lemma rebase {q : Process} (hq : w.process? w.host = some q) (halive : q.isAlive = true) :
    Keeps w q w := by
  have hpid : q.pid = h.pid := (pid_of_process?_eq_some hq).trans hk.host
  have hmem : q ∈ w.processes := List.mem_of_find?_eq_some hq
  have hleft := hk.alone q hmem hpid
  exact
    { hk.renew with
      host := hk.host.trans hpid.symm
      unmade := hleft.parent.trans hk.unmade
      here := ⟨q, hmem, rfl⟩
      alone := fun q' hq' heq => hleft.of_isAlive halive (hk.alone q' hq' (heq.trans hpid))
      next := hpid ▸ hk.next }

/-- The interpreter has another number than the process that nobody made. -/
lemma root_lt : rootPid < h.pid := by
  obtain ⟨q, hq, hpid⟩ := hk.here
  exact hpid ▸ hk.numbered q hq

/-- Some processes go and others are changed, each under its number; the interpreter does not go and
is left alone. -/
lemma of_filterMap (hsame : w'.outline = w.outline) {g : Process → Option Process}
    (hprocesses : w'.processes = w.processes.filterMap g)
    (hpid : ∀ q, ∀ q' ∈ g q, q'.pid = q.pid)
    (halone : ∀ q ∈ w.processes, q.pid = h.pid → ∃ q', g q = some q' ∧ h.LeftAlone q') :
    Keeps o h w' where
  host := (congrArg Outline.host hsame).trans hk.host
  first := (congrArg Outline.first hsame).trans hk.first
  unmade := hk.unmade
  here := by
    obtain ⟨q, hq, heq⟩ := hk.here
    obtain ⟨q', hg, -⟩ := halone q hq heq
    exact ⟨q', hprocesses ▸ List.mem_filterMap.mpr ⟨q, hq, hg⟩, (hpid q q' hg).trans heq⟩
  alone := by
    intro q' hq' heq
    obtain ⟨q, hq, hg⟩ := List.mem_filterMap.mp (hprocesses ▸ hq')
    obtain ⟨q'', hg', halone⟩ := halone q hq ((hpid q q' hg).symm.trans heq)
    cases hg.symm.trans hg'
    exact halone
  numbered := by
    intro q' hq'
    obtain ⟨q, hq, hg⟩ := List.mem_filterMap.mp (hprocesses ▸ hq')
    exact hpid q q' hg ▸ hk.numbered q hq
  next := hk.next.trans_eq (congrArg Outline.nextPid hsame).symm
  now := hk.now.trans_eq (congrArg Outline.now hsame).symm
  written := by
    have hwritten : w'.written = w.written := congrArg Outline.written hsame
    exact hwritten ▸ hk.written

/-- Something else than the processes is changed. -/
lemma alike (hsame : w'.outline = w.outline) (hprocesses : w'.processes = w.processes) : Keeps o h w' :=
  hk.of_filterMap hsame (g := some) (by rw [hprocesses, List.filterMap_some])
    (fun q q' hq' => by rw [Option.some.inj hq']) fun q hq heq => ⟨q, rfl, hk.alone q hq heq⟩

/-- Processes are changed, each under its number, and the interpreter is left alone. -/
lemma of_map (hsame : w'.outline = w.outline) {f : Process → Process}
    (hprocesses : w'.processes = w.processes.map f) (hpid : ∀ q, (f q).pid = q.pid)
    (halone : ∀ q ∈ w.processes, q.pid = h.pid → h.LeftAlone (f q)) : Keeps o h w' :=
  hk.of_filterMap hsame (g := some ∘ f) (by rw [hprocesses, List.filterMap_eq_map])
    (fun q q' hq' => by rw [← Option.some.inj hq', hpid]) fun q hq heq =>
      ⟨f q, rfl, halone q hq heq⟩

/-- Some processes go, but not the interpreter. -/
lemma of_filter (hsame : w'.outline = w.outline) {stays : Process → Bool}
    (hprocesses : w'.processes = w.processes.filter stays)
    (hstays : ∀ q ∈ w.processes, q.pid = h.pid → stays q = true) : Keeps o h w' :=
  hk.of_filterMap hsame (g := Option.guard (stays ·)) (by rw [hprocesses, List.filterMap_eq_filter])
    (fun q q' hq' => by rw [(Option.guard_eq_some_iff.mp hq').1]) fun q hq heq =>
      ⟨q, Option.guard_eq_some_iff.mpr ⟨rfl, hstays q hq heq⟩, hk.alone q hq heq⟩

/-- A change of a process that it has no hand in. -/
lemma update_of_leftAlone {pid : Nat} {f : Process → Process} (hpid : ∀ q, (f q).pid = q.pid)
    (halone : ∀ q, h.LeftAlone q → h.LeftAlone (f q)) : Keeps o h (w.update pid f) := by
  refine hk.of_map rfl rfl (fun q => ?_) fun q hq heq => ?_ <;> split
  · exact hpid q
  · rfl
  · exact halone q (hk.alone q hq heq)
  · exact hk.alone q hq heq

/-- Another process than the interpreter is changed. -/
lemma update {pid : Nat} (hother : pid ≠ h.pid) {f : Process → Process}
    (hpid : ∀ q, q.pid = pid → (f q).pid = pid) : Keeps o h (w.update pid f) := by
  refine hk.of_map rfl rfl (fun q => ?_) fun q hq heq => ?_
  · split
    · next hsame => rw [hpid q hsame, hsame]
    · rfl
  · rw [if_neg fun hsame => hother (hsame.symm.trans heq)]
    exact hk.alone q hq heq

/-- A process that is not the interpreter is put where it was. -/
lemma put (hother : p.pid ≠ h.pid) : Keeps o h (w.put p) :=
  hk.update hother fun _ _ => rfl

/-- Those that wait try again. -/
lemma wake : Keeps o h w.wake := by
  refine hk.of_map rfl rfl (fun q => ?_) fun q hq heq => ?_ <;> split
  · rfl
  · rfl
  · exact (hk.alone q hq heq).unchosen _ _ _ _ _ _ _
  · exact hk.alone q hq heq

/-- A process that is not the interpreter goes on. -/
lemma proceed {pid : Nat} (hother : pid ≠ h.pid) (task : Task) (span : Nat) :
    Keeps o h (w.proceed pid task span) :=
  hk.update hother fun _ hpid => hpid

/-- A process with the next number is made. -/
lemma made {child : Process} (hpid : child.pid = w.nextPid) :
    Keeps o h { w with processes := w.processes ++ [child], nextPid := w.nextPid + 1 } where
  host := hk.host
  first := hk.first
  unmade := hk.unmade
  here := by
    obtain ⟨q, hq, heq⟩ := hk.here
    exact ⟨q, List.mem_append_left _ hq, heq⟩
  alone := by
    intro q hq heq
    rcases List.mem_append.mp hq with hq | hq
    · exact hk.alone q hq heq
    · cases List.mem_singleton.mp hq
      exact absurd (heq.symm.trans hpid) hk.next.ne
  numbered := by
    intro q hq
    rcases List.mem_append.mp hq with hq | hq
    · exact hk.numbered q hq
    · cases List.mem_singleton.mp hq
      exact hpid ▸ hk.root_lt.trans hk.next
  next := hk.next.trans (Nat.lt_succ_self _)
  now := hk.now
  written := hk.written

/-! ### Ends and signals -/

/-- A process ends: another than the interpreter, or by a signal. -/
lemma finish {n : Nat} {e : Ending} (hroot : rootPid < n)
    (hkilled : n = h.pid → ∃ signal, e = .killed signal) : Keeps o h (w.finish n e) := by
  obtain ⟨g, hprocesses, hsome, hnone⟩ := w.exists_processes_finish n e
  refine hk.of_filterMap rfl hprocesses (fun q q' hq' => (hsome q q' hq').pid)
    fun q hq heq => ?_
  have hparent : q.parent ≠ n := ((hk.alone q hq heq).parent.trans hk.unmade).trans_ne hroot.ne
  cases hg : g q with
  | none =>
    rcases hnone q hg with ⟨hchild, -⟩ | ⟨hself, hother⟩
    · exact absurd hchild hparent
    · exact absurd (hself.symm.trans (heq.trans hk.host.symm)) hother
  | some q' =>
    exact ⟨q', rfl, (hk.alone q hq heq).afterEnd (hsome q q' hg) hparent fun hself =>
      hkilled (hself.symm.trans heq)⟩

/-- To let a process go on is nothing that it chooses. -/
lemma resume (pid : Nat) : Keeps o h (w.resume pid) := by
  have hresumed : Keeps o h
      (w.update pid fun p => { p with stopped := false, ready := max p.ready w.now }) :=
    hk.update_of_leftAlone (fun _ => rfl) fun q hq => hq.unchosen _ _ _ _ _ _ _
  rw [World.resume]
  split
  · exact hresumed.alike rfl rfl
  · split
    · exact hresumed.alike rfl rfl
    · exact hresumed

/-- Neither is to stop it. -/
lemma halt (p : Process) (number : Nat) : Keeps o h (deliver.halt w p number) := by
  have hstopped : Keeps o h (w.update p.pid fun p => { p with stopped := true }) :=
    hk.update_of_leftAlone (fun _ => rfl) fun q hq => hq.unchosen _ _ _ _ _ _ _
  rw [deliver.halt]
  split
  · exact hk
  · dsimp only
    split
    · split
      · rw [tellStop]
        split <;> exact hstopped.alike rfl rfl
      · exact hstopped
    · exact hstopped

/-- A process gets a signal, which may be the interpreter. -/
lemma deliver {pid : Nat} (hroot : rootPid < pid) (number : Nat) :
    Keeps o h (w.deliver pid number) := by
  rw [World.deliver]
  cases w.process? pid with
  | none => exact hk
  | some p =>
    have hresumed : Keeps o h (if number = Signal.cont.number then w.resume pid else w) := by
      split
      · exact hk.resume pid
      · exact hk
    dsimp only
    generalize (if number = Signal.cont.number then w.resume pid else w) = w' at hresumed
    have hfinished := hresumed.finish (e := .killed number) hroot fun _ => ⟨number, rfl⟩
    split
    · exact hk
    · split
      · exact hfinished
      · split
        · exact hresumed.halt p number
        · split
          · refine hresumed.update_of_leftAlone (fun q => by split <;> rfl) fun q hq => ?_
            split
            · exact hq
            · exact hq.unchosen _ _ _ _ _ _ _
          · split
            · exact hresumed
            · split
              · exact hresumed.update_of_leftAlone (fun _ => rfl) fun q hq =>
                  hq.unchosen _ _ _ _ _ _ _
              · split
                · exact hfinished
                · exact hresumed.halt p number
                · exact hresumed

/-- Signals are delivered one after another. -/
lemma foldl_deliver {α : Type} {xs : List α} (pid number : α → Nat)
    (hroot : ∀ x ∈ xs, rootPid < pid x) :
    Keeps o h (xs.foldl (fun w x => w.deliver (pid x) (number x)) w) :=
  List.foldlRecOn xs _ hk fun _ hw x hx => hw.deliver (hroot x hx) (number x)

/-- A process sends a signal to any others. -/
lemma send (p : Process) (pid : Int) (number : Nat) : Keeps o h (w.send p pid number).1 := by
  have hmeant : ∀ n ∈ w.addressees p pid, rootPid < n := fun n hn => by
    obtain ⟨q, hq, rfl⟩ := List.mem_map.mp hn
    exact hk.numbered q (List.mem_of_mem_filter hq)
  rw [World.send]
  split
  · exact hk
  · split
    · exact hk
    · split
      · exact hk
      · split
        · exact hk
        · refine hk.foldl_deliver id (fun _ => number) fun n hn => hmeant n ?_
          simp only [List.mem_append, List.mem_filter] at hn
          exact hn.elim And.left And.left

end

/-! ### What calls change -/

section

variable (hk : Keeps o h w)
include hk

lemma setContent (index : Nat) (f : OpenFile) (content : Bytes) :
    Keeps o h (w.setContent index f content) := by
  rw [World.setContent]
  split
  · split
    · exact hk.alike rfl rfl
    · exact hk
  · exact hk.alike rfl rfl
  · exact hk

lemma setPosition (index position : Nat) : Keeps o h (w.setPosition index position) :=
  hk.alike rfl rfl

lemma empty (path : Path) : Keeps o h (w.empty path) := by
  rw [World.empty]
  split
  · exact hk.alike rfl rfl
  · exact hk

lemma namedPipe (path : Path) : Keeps o h (w.namedPipe path).1 := by
  rw [World.namedPipe]
  split
  · exact hk
  · exact hk.alike rfl rfl

/-- Directories and executed files are moved under the processes. -/
lemma followMove (source goal : Path) : Keeps o h (w.followMove source goal) :=
  hk.of_map rfl rfl (fun _ => rfl) fun q hq heq =>
    (hk.alone q hq heq).unchosen _ _ _ _ _ _ _

/-- A process gets a new open file. -/
lemma install (hother : p.pid ≠ h.pid) {f : OpenFile} {number : Nat}
    (heq : w.install p f = .ok (w', number)) : Keeps o h w' := by
  rw [World.install] at heq
  cases hnumber : numberFor p 0 with
  | error e => rw [hnumber] at heq; cases heq
  | ok n =>
    rw [hnumber] at heq
    cases heq
    exact put (p := p.give number w.opened.size) (hk.alike rfl rfl) hother

lemma makeEntry {path : Bytes} {node : Node} {mode : Nat}
    (heq : w.makeEntry p path node mode = .ok w') : Keeps o h w' := by
  rw [World.makeEntry] at heq
  split at heq <;> cases heq <;> exact hk.alike rfl rfl

lemma rename {source goal : Bytes} (heq : w.rename p source goal = .ok w') : Keeps o h w' := by
  rw [World.rename] at heq
  split at heq
  · cases heq
  · dsimp only at heq
    split at heq
    · cases heq
      exact hk
    · cases heq
      refine (followMove (w := if w.files.isDirectory _ then w.detachDirectory _ else w.detach _)
        ?_ _ _).alike rfl rfl
      split
      · exact hk.followMove _ _
      · exact hk.alike rfl rfl
  · cases heq
    exact hk

lemma changeFiles {c : Change} (heq : w.changeFiles p c = .ok w') : Keeps o h w' := by
  cases c with
  | makeDirectory path => exact hk.makeEntry heq
  | removeDirectory path =>
    simp only [World.changeFiles] at heq
    split at heq <;> cases heq
    · exact (hk.followMove _ _).alike rfl rfl
    · exact hk.alike rfl rfl
  | unlink path =>
    simp only [World.changeFiles] at heq
    split at heq <;> cases heq <;> exact hk.alike rfl rfl
  | rename source goal => exact hk.rename heq
  | makeLink content path =>
    simp only [World.changeFiles] at heq
    split at heq
    · cases heq
    · exact hk.makeEntry heq
  | addName source goal =>
    simp only [World.changeFiles] at heq
    split at heq <;> cases heq <;> exact hk.alike rfl rfl
  | setMode path mode =>
    simp only [World.changeFiles, World.setMode] at heq
    split at heq
    · cases heq
    · cases heq
      exact hk.alike rfl rfl
    · split at heq <;> cases heq
      · exact hk.alike rfl rfl
      · exact hk
  | setTimes path through modified accessed =>
    simp only [World.changeFiles, World.setTimes] at heq
    split at heq <;> cases heq
    exact hk.alike rfl rfl
  | resize path size =>
    simp only [World.changeFiles, World.resize] at heq
    split at heq
    · cases heq
    · split at heq <;> cases heq
      exact hk.alike rfl rfl
    · cases heq
    · cases heq
  | makePipe path => exact hk.makeEntry heq

/-! ### What calls lead to -/

lemma read (fd count : Nat) : (w.read p fd count).Leads (Keeps o h) := by
  rw [World.read]
  split
  · exact hk
  · split
    · exact hk
    · split <;> try exact hk
      · split
        · exact hk
        · split
          · split
            · split <;> exact hk
            · exact hk
          · exact hk.alike rfl rfl
      · dsimp only
        split
        · exact hk
        · exact hk.setPosition _ _
      · exact hk.setPosition _ _

lemma write (fd : Nat) (bytes : Bytes) (next : Except Errno Unit → Task) :
    (w.write p fd bytes next).Leads (Keeps o h) := by
  rw [World.write]
  split
  · exact hk
  · split
    · exact hk
    · split <;> try exact hk
      · split
        · exact hk
        · exact { hk with written := hk.written.trans (List.suffix_cons _ _) }
      · split
        · exact hk
        · split
          · exact hk
          · dsimp only
            split
            · exact hk.alike rfl rfl
            · split
              · split <;> exact hk
              · exact hk.alike rfl rfl
      · have hput : ∀ (taken : Bytes) (index : Nat) (f : OpenFile) (content : Bytes), Keeps o h
            (if taken = [] then w else w.setContent index f content) := by
          intro taken index f content
          split
          · exact hk
          · exact hk.setContent _ _ _
        exact Served.Leads.ite ((hput _ _ _ _).setPosition _ _) ((hput _ _ _ _).setPosition _ _)

variable (hother : p.pid ≠ h.pid)
include hother

lemma installed (f : OpenFile) : (w.installed p f).Leads (Keeps o h) := by
  rw [World.installed]
  split
  · exact hk.install hother ‹_›
  · exact hk

lemma openPipe (path : Path) (how : Opening) : (w.openPipe p path how).Leads (Keeps o h) := by
  have hpipe := hk.namedPipe path
  rw [World.openPipe]
  generalize w.namedPipe path = named at hpipe ⊢
  obtain ⟨w, pipe⟩ := named
  dsimp only at hpipe ⊢
  split
  · exact hpipe
  · next w' number hbegun =>
    have hk' : Keeps o h w' := by
      split at hbegun
      · cases hbegun
        exact hpipe
      · exact hpipe.install hother hbegun
    exact .ite (wake (update hk' hother fun _ hpid => hpid))
      (.ite hk' (wake (update hk' hother fun _ hpid => hpid)))

lemma reopen (number : Nat) (how : Opening) : (w.reopen p number how).Leads (Keeps o h) := by
  rw [World.reopen]
  split
  · exact hk
  · dsimp only
    refine installed ?_ hother _
    split
    · split
      · exact hk.empty _
      · exact hk
    · exact hk

lemma openEntry (path : Path) (node : Node) (how : Opening) :
    (w.openEntry p path node how).Leads (Keeps o h) := by
  cases node with
  | descriptor number => exact hk.reopen hother _ _
  | pipe => exact hk.openPipe hother _ _
  | terminal => exact hk
  | _ =>
    simp only [World.openEntry]
    split
    · exact hk
    · split
      · exact hk
      · split
        · exact hk
        · refine installed ?_ hother _
          split
          · exact hk.empty _
          · exact hk

lemma openFile (path : Bytes) (how : Opening) : (w.openFile p path how).Leads (Keeps o h) := by
  rw [World.openFile]
  dsimp only
  split
  · exact hk
  · split
    · exact hk
    · split
      · exact hk
      · split
        · exact hk
        · exact hk.openEntry hother _ _ _
  · split
    · exact hk
    · split
      · exact hk
      · split
        · exact hk
        · refine openEntry ?_ hother _ _ _
          exact hk.alike rfl rfl

lemma makePipe : (w.makePipe p).Leads (Keeps o h) := by
  have hmade : Keeps o h { w with pipes := w.pipes.push ⟨[], 0, none⟩ } :=
    hk.alike rfl rfl
  rw [World.makePipe]
  dsimp only
  split
  · next w' both heq =>
    cases hreading : World.install { w with pipes := w.pipes.push ⟨[], 0, none⟩ } p
        ⟨.pipe w.pipes.size, 0, true, false, false⟩ with
    | error e => rw [hreading] at heq; cases heq
    | ok first =>
      have hfirst := hmade.install hother hreading
      have hpid : ((first.1.process? p.pid).getD p).pid = p.pid := by
        cases hp : first.1.process? p.pid with
        | none => rfl
        | some p' => exact pid_of_process?_eq_some hp
      rw [hreading] at heq
      change (first.1.install ((first.1.process? p.pid).getD p)
        ⟨.pipe w.pipes.size, 0, false, true, false⟩ >>= fun second =>
          pure (second.1, first.2, second.2)) = _ at heq
      cases hwriting : first.1.install ((first.1.process? p.pid).getD p)
          ⟨.pipe w.pipes.size, 0, false, true, false⟩ with
      | error e => rw [hwriting] at heq; cases heq
      | ok second =>
        rw [hwriting] at heq
        cases heq
        exact hfirst.install (hpid.trans_ne hother) hwriting
  · exact hk

lemma duplicate (fd least : Nat) : (w.duplicate p fd least).Leads (Keeps o h) := by
  rw [World.duplicate]
  split
  · exact hk
  · split
    · exact hk.put hother
    · exact hk

lemma redirect (fd number : Nat) : (w.redirect p fd number).Leads (Keeps o h) := by
  rw [World.redirect]
  split
  · exact hk
  · split
    · exact hk
    · exact wake (put hk hother)

lemma close (fd : Nat) : (w.close p fd).Leads (Keeps o h) := by
  rw [World.close]
  split
  · exact hk
  · exact wake (put hk hother)

lemma closeOnExec (fd : Nat) : (w.closeOnExec p fd).Leads (Keeps o h) := by
  rw [World.closeOnExec]
  split
  · exact hk
  · exact hk.put hother

omit hother in
lemma seek (fd : Nat) (base : Base) (offset : Int) :
    (w.seek p fd base offset).Leads (Keeps o h) := by
  rw [World.seek]
  split
  · exact hk
  · split <;> try exact hk
    dsimp only
    split <;> split
    all_goals first | exact hk | exact hk.setPosition _ _

omit hother in
lemma lock (fd : Nat) (how : Option Lock) (deadline : Option Nat) :
    (w.lock p fd how deadline).Leads (Keeps o h) := by
  rw [World.lock]
  split
  · exact hk
  · have hlocks : ∀ locks, Keeps o h { w with locks } :=
      fun locks => hk.alike rfl rfl
    dsimp only
    split
    · exact (hlocks _).wake
    · split
      · exact (hlocks _).wake
      · split <;> exact hlocks _

lemma enter (path : Bytes) : (w.enter p path).Leads (Keeps o h) := by
  rw [World.enter]
  split
  · exact hk
  · split
    · exact hk.put hother
    · exact hk
  · exact hk

omit hother in
/-- The interpreter is no child of a process that waits for one. -/
lemma wait (hroot : rootPid < p.pid) (pid deadline : Option Nat) :
    (w.wait p pid deadline).Leads (Keeps o h) := by
  simp only [World.wait]
  split
  · exact hk
  · split
    · next child e hfound =>
      obtain ⟨c, hc, hending⟩ := List.exists_of_findSome?_eq_some hfound
      obtain ⟨e', -, hpair⟩ := Option.map_eq_some_iff.mp hending
      cases hpair
      obtain ⟨hc, hmine⟩ := List.mem_filter.mp hc
      have hchild : c.parent = p.pid := of_decide_eq_true (Bool.and_eq_true _ _ ▸ hmine).1
      have hstranger : c.pid ≠ h.pid := fun heq =>
        hroot.ne ((hk.unmade.symm.trans (hk.alone c hc heq).parent.symm).trans hchild)
      exact hk.of_filter rfl rfl fun q _ heq =>
        decide_eq_true fun hsame => hstranger (hsame.symm.trans heq)
    · split
      · split
        · exact hk
        · split <;> exact hk
      · split <;> exact hk

lemma withhold (hroot : rootPid < p.pid) (numbers : List Nat) (waiting : Bool) :
    (w.withhold p numbers waiting).Leads (Keeps o h) := by
  rw [World.withhold]
  dsimp only
  split
  · exact hk.put hother
  · refine foldl_deliver (put hk ?_) (fun _ => p.pid) id fun _ _ => hroot
    exact hother

lemma limit (r : Resource) (new : Option Limit) : (w.limit p r new).Leads (Keeps o h) := by
  cases new with
  | none => exact hk
  | some l => exact .ite hk (.ite hk (put hk hother))

lemma yield (more : Int) : (w.yield p more).Leads (Keeps o h) := by
  rw [World.yield]
  split
  · exact hk
  · exact hk.put hother

omit hother in
lemma sleep (span : Nat) : (w.sleep p span).Leads (Keeps o h) := by
  rw [World.sleep]
  split
  · split
    · exact hk
    · split <;> exact hk
  · split <;> exact hk

/-! ### Turns -/

/-- Whatever a process calls. -/
lemma serve (hroot : rootPid < p.pid) (c : Call) (next : c.Reply → Task) :
    (w.serve p c next).Leads (Keeps o h) := by
  cases c with
  | read fd count => exact hk.read fd count
  | write fd bytes => exact hk.write fd bytes next
  | openFile path how => exact hk.openFile hother path how
  | close fd => exact hk.close hother fd
  | duplicate fd least => exact hk.duplicate hother fd least
  | redirect fd number => exact hk.redirect hother fd number
  | closeOnExec fd => exact hk.closeOnExec hother fd
  | seek fd base offset => exact hk.seek fd base offset
  | lock fd how deadline => exact hk.lock fd how deadline
  | makePipe => exact hk.makePipe hother
  | change c =>
    simp only [World.serve]
    split
    · exact hk.changeFiles ‹_›
    · exact hk
  | enter path => exact hk.enter hother path
  | mask mode => exact put hk hother
  | wait pid deadline => exact hk.wait hroot pid deadline
  | signal pid number => exact hk.send p pid number
  | react number reaction => exact put hk hother
  | remembered => exact put hk hother
  | withhold numbers waiting => exact hk.withhold hother hroot numbers waiting
  | limit r new => exact hk.limit hother r new
  | yield more => exact hk.yield hother more
  | leaveGroup => exact put hk hother
  | sleep span => exact hk.sleep span
  | _ => exact hk

lemma callOf (hroot : rootPid < p.pid) (c : Call) (next : c.Reply → Task) :
    Keeps o h (w.callOf p c next) := by
  have hserved := hk.serve hother hroot c next
  rw [World.callOf]
  generalize w.serve p c next = served at hserved ⊢
  cases served with
  | answered w' a =>
    refine proceed ?_ hother _ _
    split
    · exact wake hserved
    · exact hserved
  | blocked w' deadline => exact update hserved hother fun _ hpid => hpid
  | partly w' rest => exact update (wake hserved) hother fun _ hpid => hpid
  | signaled w' number a => exact deliver (proceed hserved hother _ _) hroot number

/-- Whatever a process does next. -/
lemma turn (programs : Programs) (hroot : rootPid < p.pid) : Keeps o h (turn programs w p) := by
  rw [World.turn]
  split
  · exact hk.finish hroot fun hself => absurd hself hother
  · exact hk.callOf hother hroot _ _
  · exact proceed (made hk rfl) hother _ _
  · rw [execOf]
    split
    · exact hk.proceed hother _ _
    · refine proceed (wake (put hk ?_)) hother _ _
      exact hother

end

/-- A turn keeps the interpreter. -/
theorem step? (hk : Keeps o h w) {programs : Programs} (hstep : w.step? programs = some w') :
    Keeps o h w' := by
  obtain ⟨⟨t, p⟩, hturn, rfl⟩ := Option.map_eq_some_iff.mp hstep
  obtain ⟨hp, hother⟩ := mem_of_nextTurn?_eq_some hturn
  rw [hk.host] at hother
  have hlater : Keeps o h { w with now := max w.now t } :=
    { hk with now := hk.now.trans (le_max_left _ _) }
  exact hlater.turn hother programs (hk.numbered p hp)

/-- So do all turns together. -/
theorem runUntil (hk : Keeps o h w) (programs : Programs) (reached : World → Bool) (n : Nat) :
    Keeps o h (w.runUntil programs reached n) := by
  induction n generalizing w with
  | zero => exact hk
  | succ n ih =>
    rw [World.runUntil]
    split
    · exact hk
    · split
      · exact hk
      · exact ih (hk.step? ‹_›)

end Keeps

end World

end CommandShell
