import CommandShell.Proofs.Mirrors
import CommandShell.Proofs.Parallel
import CommandShell.Proofs.Verdicts
import Mathlib

/-!
# Output with little room

Two runs are compared that differ in their output only.  In one run it accepts everything, in the
other it has room for so many bytes (`LimitedSink.Allows`), accepts them in small pieces and may be
interrupted.

As long as there is room for all that is printed, the sessions of both runs are *in step*: they
agree in everything but the stream (`Session.InStep`), and every act gives the same answer in both.
The first byte without room sets them *apart* (`Session.Apart`).  From then on the runs differ,
since one is told of a failure, but the stream without room accepts nothing more, and what the other
one prints is beyond its room.  So both relations are kept by every act, the first one until the
second one holds (`Session.Linked`), and by whole runs (`Session.InStep.linkedRuns`).

Handlers have to write byte strings as a whole for this: a single write call lets them know how many
bytes were accepted.
-/

namespace CommandShell

open Sink (AcceptsAll)

/-! ### Limited streams -/

namespace LimitedSink

/-- A stream that accepts so many more bytes, some in each call that it does not interrupt, and
whose flushes succeed. -/
structure Allows (k : Nat) (s : LimitedSink) : Prop where
  room : s.room = some k
  chunk : s.chunk ≠ some 0
  failingFlush : s.failingFlush = none

namespace Allows

variable {k : Nat} {s : LimitedSink} (h : s.Allows k)
include h

/-- A flush succeeds and changes nothing of that. -/
lemma flush : (Sink.flush s).1 = none ∧ (Sink.flush s).2.Allows k := by
  obtain ⟨hroom, hchunk, hflush⟩ := h
  refine ⟨?_, hroom, hchunk, hflush⟩
  simp only [Sink.flush, LimitedSink.flush, hflush]

/-- The answer to a write call: an interruption, or a failure if there is no room, or some bytes for
which there is room. -/
lemma write (bytes : Bytes) :
    match Sink.write s bytes with
    | (.interrupted, s') => s'.Allows k
    | (.failed _, s') => k = 0 ∧ s'.Allows 0
    | (.accepted m, s') =>
      m ≤ bytes.length ∧ m ≤ k ∧ (bytes ≠ [] → k ≠ 0 → m ≠ 0) ∧ s'.Allows (k - m) := by
  obtain ⟨hroom, hchunk, hflush⟩ := h
  simp only [Sink.write, LimitedSink.write, hroom, Option.some.injEq]
  by_cases hturn : s.interrupting ∧ s.calls % 2 = 0
  · rw [if_pos hturn]
    exact ⟨rfl, hchunk, hflush⟩
  rw [if_neg hturn]
  by_cases hfull : k = 0 ∧ bytes ≠ []
  · rw [if_pos hfull]
    obtain ⟨rfl, -⟩ := hfull
    cases s.full with
    | some e => exact ⟨rfl, rfl, hchunk, hflush⟩
    | none => exact ⟨Nat.zero_le _, Nat.zero_le _, fun _ hk => absurd rfl hk, rfl, hchunk, hflush⟩
  · rw [if_neg hfull]
    have hshare : (s.share bytes).length ≤ bytes.length ∧ (s.share bytes).length ≤ k ∧
        (bytes ≠ [] → k ≠ 0 → (s.share bytes).length ≠ 0) := by
      simp only [share, hroom, ← List.length_pos_iff]
      -- Some bytes are shared out, since the limit of a call is not zero.
      cases hc : s.chunk with
      | none =>
        simp only [List.length_take]
        omega
      | some c =>
        have hc0 : c ≠ 0 := fun h0 => hchunk (h0 ▸ hc)
        simp only [List.length_take]
        omega
    exact ⟨hshare.1, hshare.2.1, hshare.2.2, rfl, hchunk, hflush⟩

/-- Of a whole byte string as many bytes are accepted as there is room for, in whatever calls; only
what there is no room for is a failure. -/
lemma writeAll (bytes : Bytes) :
    (Sink.writeAll s bytes).count = min bytes.length k ∧
      ((Sink.writeAll s bytes).failure = none ↔ bytes.length ≤ k) ∧
      (Sink.writeAll s bytes).sink.Allows (k - bytes.length) := by
  fun_induction Sink.writeAll s bytes generalizing k with
  | case1 s => exact ⟨by simp, by simp, by simpa using h⟩
  | case2 s b rest e s' heq =>
    have hwrite := h.write (b :: rest)
    rw [heq] at hwrite
    obtain ⟨rfl, hs'⟩ := hwrite
    exact ⟨by simp, by simp, by simpa using hs'⟩
  | case3 s b rest s' heq ih =>
    have hwrite := h.write (b :: rest)
    rw [heq] at hwrite
    exact ih hwrite
  | case4 s b rest s' heq =>
    have hwrite := h.write (b :: rest)
    rw [heq] at hwrite
    obtain ⟨-, -, hsome, hs'⟩ := hwrite
    obtain rfl : k = 0 := by_contra fun hk => hsome (List.cons_ne_nil b rest) hk rfl
    exact ⟨by simp, by simp, by simpa using hs'⟩
  | case5 s b rest m s' heq after =>
    rename_i ih
    have hwrite := h.write (b :: rest)
    rw [heq] at hwrite
    obtain ⟨hbytes, hroomy, -, hs'⟩ := hwrite
    obtain ⟨hcount, hfailure, hsink⟩ := ih hs'
    simp only [List.length_cons, List.length_drop] at hbytes hcount hfailure hsink ⊢
    refine ⟨?_, ?_, ?_⟩
    · rw [hcount, List.length_take, List.length_cons]
      omega
    · rw [hfailure]
      omega
    · have hroom : k - (m + 1) - (rest.length - m) = k - (rest.length + 1) := by omega
      rwa [hroom] at hsink

end Allows

end LimitedSink

/-- A handler that makes no single write calls: it writes byte strings as a whole. -/
abbrev Handler.Whole (c : Handler) : Prop :=
  c.Yields fun _ => True

namespace Session

variable {α β σ τ ℓ : Type}

/-! ### What the output has accepted -/

/-- The bytes that the output has accepted, in order. -/
def printed (s : Session σ τ ℓ) : Bytes :=
  s.events.flatMap Event.printed

/-- An event adds its bytes. -/
lemma printed_happen (s : Session σ τ ℓ) (e : Event) :
    (s.happen e).printed = s.printed ++ e.printed := by
  simp [printed]

/-- Printing adds the bytes that were accepted, and leaves the stream as it is after writing. -/
lemma printed_print [Sink σ] (s : Session σ τ ℓ) (bytes : Bytes) :
    (s.print bytes).2.printed = s.printed ++ bytes.take (Sink.writeAll s.out bytes).count ∧
      (s.print bytes).2.out = (Sink.writeAll s.out bytes).sink := by
  simp only [print]
  split
  · next hzero =>
    rw [hzero, List.take_zero, List.append_nil]
    exact ⟨rfl, rfl⟩
  · exact ⟨printed_happen _ _, rfl⟩

/-- A session has gone on from another one. -/
def Extends (s s' : Session σ τ ℓ) : Prop :=
  s.events <+: s'.events

lemma Extends.printed_prefix {s s' : Session σ τ ℓ} (h : Extends s s') :
    s.printed <+: s'.printed := by
  obtain ⟨new, hnew⟩ := h
  rw [printed, printed, ← hnew, List.flatMap_append]
  exact List.prefix_append _ _

lemma Adds.extends {s s' : Session σ τ ℓ} (h : Adds (fun _ => true) s s') : Extends s s' := by
  obtain ⟨new, hnew, -⟩ := h
  exact ⟨new, hnew.symm⟩

/-- Every act goes on. -/
lemma kept_extends [Sink σ] [Sink τ] [Launcher ℓ] :
    Kept (Extends : Session σ τ ℓ → Session σ τ ℓ → Prop) where
  refl s := List.prefix_refl s.events
  trans h h' := List.IsPrefix.trans h h'
  print _ bytes := (Adds.print (fun _ => rfl) bytes).extends
  offer _ bytes := (Adds.offer (fun _ => rfl) bytes).extends
  flush _ := (Adds.flush fun _ => rfl).extends
  asked _ := (Adds.happen rfl).extends
  report _ text := (Adds.report (fun _ => rfl) text).extends
  happen _ _ _ := (Adds.happen rfl).extends
  note _ _ _ := (Adds.note rfl).extends
  launch _ _ := (Adds.launch (fun _ => rfl) (fun _ _ => rfl) fun _ _ => rfl).extends
  replace s _ _ := List.prefix_refl s.events

/-- Events without output leave what was printed alone. -/
lemma Adds.printed_eq {s s' : Session σ τ ℓ} (h : Adds (fun e => e.printed.isEmpty) s s') :
    s'.printed = s.printed := by
  obtain ⟨new, hnew, hsilent⟩ := h
  have hnone : new.flatMap Event.printed = [] :=
    List.flatMap_eq_nil_iff.mpr fun e he => List.isEmpty_iff.mp (hsilent e he)
  rw [printed, hnew, List.flatMap_append, hnone, List.append_nil, printed]

/-- If the output has no more room, none of what was done since was printed, and it still has
none. -/
def Exhausted (s s' : Session LimitedSink τ ℓ) : Prop :=
  s.out.Allows 0 → s'.printed = s.printed ∧ s'.out.Allows 0

/-- No act prints anything without room. -/
lemma kept_exhausted [Sink τ] [Launcher ℓ] :
    Kept (Exhausted : Session LimitedSink τ ℓ → Session LimitedSink τ ℓ → Prop) where
  refl _ hroom := ⟨rfl, hroom⟩
  trans h h' hroom := by
    obtain ⟨hprinted, hroom'⟩ := h hroom
    obtain ⟨hprinted', hroom''⟩ := h' hroom'
    exact ⟨hprinted'.trans hprinted, hroom''⟩
  print s bytes hroom := by
    obtain ⟨hprinted, hout⟩ := s.printed_print bytes
    obtain ⟨hcount, -, hsink⟩ := hroom.writeAll bytes
    rw [Nat.min_zero] at hcount
    rw [Nat.zero_sub] at hsink
    rw [hcount, List.take_zero, List.append_nil] at hprinted
    exact ⟨hprinted, hout ▸ hsink⟩
  offer s bytes hroom := by
    have hwrite := hroom.write bytes
    simp only [offer]
    generalize Sink.write s.out bytes = answered at hwrite ⊢
    obtain ⟨answer, out⟩ := answered
    have hnone : bytes.take answer.count = [] ∧ out.Allows 0 := by
      cases answer with
      | interrupted => exact ⟨rfl, hwrite⟩
      | failed e => exact ⟨rfl, hwrite.2⟩
      | accepted m =>
        obtain ⟨-, hm, -, hout⟩ := hwrite
        obtain rfl := Nat.le_zero.mp hm
        exact ⟨rfl, hout⟩
    simp only [hnone.1, if_true]
    exact ⟨rfl, hnone.2⟩
  flush s hroom := by
    have hprinted : s.flush.2.printed = s.printed ++ [] := printed_happen _ _
    exact ⟨hprinted.trans (List.append_nil _), hroom.flush.2⟩
  report s text hroom := by
    simp only [report]
    split
    · exact ⟨rfl, hroom⟩
    · exact ⟨(printed_happen _ _).trans (List.append_nil _), hroom⟩
  happen s e he hroom := by
    rw [printed_happen, Event.printed_of_isAside he, List.append_nil]
    exact ⟨rfl, hroom⟩
  asked s hroom := ⟨(Adds.happen rfl).printed_eq, hroom⟩
  note s r _ hroom := ⟨(Adds.note rfl).printed_eq, (Unmoved.note s r).out ▸ hroom⟩
  launch s args hroom := by
    refine ⟨(Adds.launch (fun _ => rfl) (fun _ _ => rfl) fun _ _ => rfl).printed_eq, ?_⟩
    rwa [(Unmoved.launch s args).out]
  replace _ _ _ hroom := ⟨rfl, hroom⟩

/-! ### Two sessions side by side -/

/-- The same session with another stream of output. -/
def withOut {σ' : Type} (s : Session σ τ ℓ) (out : σ') : Session σ' τ ℓ :=
  ⟨out, s.err, s.launcher, s.files, s.verbosity, s.history⟩

/-- Printing depends on the stream only through the number of bytes that it accepts. -/
lemma print_withOut {σ' : Type} [Sink σ] [Sink σ'] (s : Session σ τ ℓ) {out : σ'} {bytes : Bytes}
    (h : (Sink.writeAll out bytes).count = (Sink.writeAll s.out bytes).count) :
    ((s.withOut out).print bytes).2 = (s.print bytes).2.withOut (Sink.writeAll out bytes).sink := by
  have hout : (s.withOut out).out = out := rfl
  simp only [print, hout, h]
  split <;> rfl

/-- A diagnostic does not depend on the output. -/
lemma report_withOut {σ' : Type} [Sink τ] (s : Session σ τ ℓ) (out : σ') (text : String) :
    (s.withOut out).report text = (s.report text).withOut out := by
  have herr : (s.withOut out).err = s.err := rfl
  simp only [report, herr]
  split <;> rfl

/-- Two sessions of which one has printed more than so many bytes, and the other just these, with no
room for more. -/
structure Apart (n : Nat) (s : Session σ τ ℓ) (t : Session LimitedSink τ ℓ) : Prop where
  exceeds : n < s.printed.length
  printed : t.printed = s.printed.take n
  room : t.out.Allows 0

/-- Sessions that are apart stay so, whatever is done in each. -/
lemma Apart.later {n : Nat} {s s' : Session σ τ ℓ} {t t' : Session LimitedSink τ ℓ}
    (h : Apart n s t) (hs : Extends s s') (ht : Exhausted t t') : Apart n s' t' := by
  obtain ⟨hprinted, hroom⟩ := ht h.room
  have hprefix := hs.printed_prefix
  refine ⟨Nat.lt_of_lt_of_le h.exceeds hprefix.length_le, ?_, hroom⟩
  rw [hprinted, h.printed]
  obtain ⟨new, hnew⟩ := hprefix
  rw [← hnew, List.take_append_of_le_length (Nat.le_of_lt h.exceeds)]

variable [Sink σ]

/-- Two sessions that differ in their output only, which accepts everything in one and has room for
the rest of so many bytes in the other. -/
structure InStep (n : Nat) (s : Session σ τ ℓ) (t : Session LimitedSink τ ℓ) : Prop where
  eq : t = s.withOut t.out
  out : AcceptsAll s.out
  fits : s.printed.length ≤ n
  room : t.out.Allows (n - s.printed.length)

/-- What is done in both sessions gives the same answer and keeps them in step, or they are apart
afterwards. -/
def Linked (n : Nat) (x : α × Session σ τ ℓ) (y : α × Session LimitedSink τ ℓ) : Prop :=
  (x.1 = y.1 ∧ InStep n x.2 y.2) ∨ Apart n x.2 y.2

variable {n : Nat} {s : Session σ τ ℓ} {t : Session LimitedSink τ ℓ}

/-- What is linked is the same answer in sessions that are in step, or any answers in sessions that
are apart. -/
@[elab_as_elim]
lemma Linked.elim {P : α × Session σ τ ℓ → α × Session LimitedSink τ ℓ → Prop}
    {x : α × Session σ τ ℓ} {y : α × Session LimitedSink τ ℓ} (h : Linked n x y)
    (inStep : ∀ a {s t}, InStep n s t → P (a, s) (a, t))
    (apart : ∀ a b {s t}, Apart n s t → P (a, s) (b, t)) : P x y := by
  obtain ⟨a, s⟩ := x
  obtain ⟨b, t⟩ := y
  rcases h with ⟨rfl, hstep⟩ | hapart
  · exact inStep a hstep
  · exact apart a b hapart

/-! ### Acts in step -/

namespace InStep

variable (h : InStep n s t)
include h

/-- The same answer in sessions that stay in step. -/
lemma linked (a : α) : Linked n (a, s) (a, t) :=
  Or.inl ⟨rfl, h⟩

lemma launcher_eq : t.launcher = s.launcher := by
  rw [h.eq]
  rfl

lemma files_eq : t.files = s.files := by
  rw [h.eq]
  rfl

lemma verbosity_eq : t.verbosity = s.verbosity := by
  rw [h.eq]
  rfl

lemma events_eq : t.events = s.events := by
  rw [h.eq]
  rfl

/-- Both outputs have accepted the same. -/
lemma printed_eq : t.printed = s.printed := by
  rw [printed, h.events_eq, printed]

/-- Printing keeps the sessions in step if there is room for all bytes, and else they are apart. -/
lemma print (bytes : Bytes) : Linked n (s.print bytes) (t.print bytes) := by
  obtain ⟨hcount, hfailure, hsink⟩ := h.out.writeAll_eq bytes
  obtain ⟨hcount', hfailure', hsink'⟩ := h.room.writeAll bytes
  obtain ⟨hprinted, hout⟩ := s.printed_print bytes
  obtain ⟨hprinted', hout'⟩ := t.printed_print bytes
  rw [hcount, List.take_length] at hprinted
  have hfits := h.fits
  by_cases hroom : bytes.length ≤ n - s.printed.length
  · rw [Nat.min_eq_left hroom] at hcount'
    refine Or.inl ⟨hfailure.trans (hfailure'.mpr hroom).symm, ?_, ?_, ?_, ?_⟩
    · have hsame : (t.print bytes).2 = ((s.withOut t.out).print bytes).2 := by rw [← h.eq]
      rw [hout', hsame]
      exact s.print_withOut (hcount'.trans hcount.symm)
    · rw [hout]
      exact hsink
    · rw [hprinted, List.length_append]
      omega
    · rw [hout', hprinted, List.length_append, ← Nat.sub_sub]
      exact hsink'
  · refine Or.inr ⟨?_, ?_, ?_⟩
    · rw [hprinted, List.length_append]
      omega
    · rw [hprinted', hcount', h.printed_eq, hprinted, List.take_append,
        List.take_of_length_le hfits, Nat.min_eq_right (by omega)]
    · rw [hout']
      rwa [Nat.sub_eq_zero_of_le (by omega)] at hsink'

/-- Both outputs are flushed. -/
lemma flush : s.flush.1 = none ∧ t.flush.1 = none ∧ InStep n s.flush.2 t.flush.2 := by
  obtain ⟨hsuccess, hroom⟩ := h.room.flush
  have hprinted : s.flush.2.printed = s.printed :=
    (printed_happen _ _).trans (List.append_nil _)
  refine ⟨h.out.flush_fst, hsuccess, ?_, h.out.of_called (.flush s.out), ?_, ?_⟩
  · have hflush : t.flush.2 = ((s.withOut t.out).flush).2 := by rw [← h.eq]
    rw [hflush]
    simp only [Session.flush, withOut, happen, hsuccess, h.out.flush_fst]
  · rw [hprinted]
    exact h.fits
  · rw [hprinted]
    exact hroom

/-- What touches neither output keeps the sessions in step, if nothing is printed. -/
lemma silent {s' : Session σ τ ℓ} {t' : Session LimitedSink τ ℓ} (hout : s'.out = s.out)
    (hprinted : s'.printed = s.printed) (ht : t' = s'.withOut t.out) : InStep n s' t' := by
  subst ht
  refine ⟨rfl, hout ▸ h.out, hprinted ▸ h.fits, ?_⟩
  rw [hprinted]
  exact h.room

lemma happen {e : Event} (he : e.printed = []) : InStep n (s.happen e) (t.happen e) := by
  refine h.silent rfl ?_ ?_
  · rw [printed_happen, he, List.append_nil]
  · rw [h.eq]
    rfl

lemma replace (launcher : ℓ) (files : FileSystem) :
    InStep n { s with launcher, files } { t with launcher, files } := by
  refine h.silent rfl rfl ?_
  rw [h.eq]
  rfl

lemma note (r : Record) : InStep n (s.note r) (t.note r) := by
  rw [Session.note, Session.note, h.verbosity_eq]
  split
  · exact h.happen rfl
  · exact h

lemma report [Sink τ] (text : String) : InStep n (s.report text) (t.report text) := by
  refine h.silent ?_ ?_ ?_
  · simp only [Session.report]
    split <;> rfl
  · simp only [Session.report]
    split
    · rfl
    · exact (printed_happen _ _).trans (List.append_nil _)
  · have hsame : t.report text = (s.withOut t.out).report text := by rw [← h.eq]
    rw [hsame, report_withOut]

variable [Sink τ]

omit h in
/-- Every act but printing keeps sessions in step. -/
lemma parallel : Parallel (InStep n : Session σ τ ℓ → Session LimitedSink τ ℓ → Prop) where
  launcher h := h.launcher_eq.symm
  files h := h.files_eq.symm
  flush h := by
    obtain ⟨hs, ht, hflushed⟩ := h.flush
    exact ⟨hs.trans ht.symm, hflushed⟩
  report h text := h.report text
  note h r := h.note r
  happen h e he := h.happen (Event.printed_of_isAside he)
  replace h launcher files := h.replace launcher files

variable [Launcher ℓ]

/-- Texts are printed up to the first that there is no room for. -/
lemma printTexts (texts : List String) : Linked n (s.printTexts texts) (t.printTexts texts) := by
  induction texts generalizing s t with
  | nil => exact h.linked none
  | cons text rest ih =>
    rw [Session.printTexts, Session.printTexts]
    refine Linked.elim (h.print (utf8 text)) ?_ ?_
    · rintro (failure | e) s t hstep
      · exact ih hstep
      · exact hstep.linked (some e)
    · rintro a b s t hapart
      refine Or.inr (hapart.later ?_ ?_)
      · cases a with
        | none => exact kept_extends.printTexts s rest
        | some e => exact kept_extends.refl s
      · cases b with
        | none => exact kept_exhausted.printTexts t rest
        | some e => exact kept_exhausted.refl t

/-- The prompt is printed as far as there is room for it, and flushed if there was. -/
lemma prompt (wanted : Bool) : Linked n (s.prompt wanted) (t.prompt wanted) := by
  have hdirectory : Linked n s.printDirectory t.printDirectory := by
    rw [printDirectory, printDirectory, h.files_eq]
    cases s.files.currentDirectory? with
    | none => exact h.linked none
    | some directory => exact h.printTexts _
  rw [Session.prompt, Session.prompt]
  split
  · refine Linked.elim hdirectory ?_ ?_
    · rintro (failure | e) s t hstep
      · obtain ⟨hs, ht, hflushed⟩ := hstep.flush
        exact Or.inl ⟨hs.trans ht.symm, hflushed⟩
      · exact hstep.linked (some e)
    · rintro a b s t hapart
      refine Or.inr (hapart.later ?_ ?_)
      · cases a with
        | none => exact kept_extends.flush s
        | some e => exact kept_extends.refl s
      · cases b with
        | none => exact kept_exhausted.flush t
        | some e => exact kept_exhausted.refl t
  · exact h.linked none

/-- A handler that writes byte strings as a whole is linked. -/
theorem handler {c : Handler} (hc : c.Whole) : Linked n (c.run s) (c.run t) := by
  induction c generalizing s t with
  | done v => exact h.linked v
  | print bytes next ih =>
    rw [Handler.run_print, Handler.run_print]
    refine Linked.elim (h.print bytes) (fun a s t hstep => ih a hstep (hc a))
      fun a b s t hapart => ?_
    exact Or.inr
      (hapart.later (kept_extends.handler (next a) s) (kept_exhausted.handler (next b) t))
  | offer bytes next ih => exact hc.elim
  | flush next ih =>
    obtain ⟨hs, ht, hflushed⟩ := h.flush
    simp only [Handler.run_flush, hs, ht]
    exact ih none hflushed (hc none)
  | read path next ih =>
    have hread := parallel.takeAccess h (Launcher.readFile s.launcher s.files path)
    simp only [Handler.run_read, readFile, h.launcher_eq, h.files_eq]
    cases (Launcher.readFile s.launcher s.files path).result with
    | none => exact hread.linked _
    | some answer => exact ih answer hread (hc answer)
  | append path next ih =>
    have happened := parallel.takeAccess h (Launcher.appendTo s.launcher s.files path)
    simp only [Handler.run_append, appendTo, h.launcher_eq, h.files_eq]
    cases (Launcher.appendTo s.launcher s.files path).result with
    | none => exact happened.linked _
    | some answer => exact ih answer happened (hc answer)
  | change f next ih =>
    simp only [Handler.run_change, changeFiles, h.launcher_eq, h.files_eq]
    exact ih _ (h.replace _ _) (hc _)

/-! ### Commands in step -/

variable [HasHandler β]

lemma runBuiltin {b : β} {args : ArgVector} (hb : (HasHandler.handler b args).Whole) :
    Linked n (s.runBuiltin b args) (t.runBuiltin b args) := by
  rw [Session.runBuiltin, Session.runBuiltin]
  refine Linked.elim (h.handler hb) ?_ ?_
  · rintro (f | status) s t hstep
    · exact (hstep.report f.message).linked Status.proceed
    · exact hstep.linked status
  · rintro a b s t hapart
    refine Or.inr (hapart.later ?_ ?_)
    · cases a with
      | ok status => exact kept_extends.refl s
      | error f => exact kept_extends.report s f.message
    · cases b with
      | ok status => exact kept_exhausted.refl t
      | error f => exact kept_exhausted.report t f.message

/-- A command is linked if the handlers of the table write byte strings as a whole. -/
theorem execute {table : Table β}
    (htable : ∀ entry ∈ table, ∀ args, (HasHandler.handler entry.2 args).Whole) (args : ArgVector) :
    Linked n (s.execute table args) (t.execute table args) := by
  rw [Session.execute, Session.execute]
  cases args.command? with
  | none => exact h.linked Status.proceed
  | some name =>
    simp only
    cases hb : table.builtin? name with
    | none => exact (parallel.runProgram h name args).linked Status.proceed
    | some b =>
      obtain ⟨entry, hfind, rfl⟩ := Option.map_eq_some_iff.mp hb
      exact (h.note _).runBuiltin (htable entry (List.mem_of_find?_eq_some hfind) args)

end InStep

/-! ### Runs in step -/

/-- Two runs come to the same and leave the sessions in step, or they leave them apart. -/
def LinkedRuns (n : Nat) (r : Run σ τ ℓ) (q : Run LimitedSink τ ℓ) : Prop :=
  (r.failure = q.failure ∧ r.input = q.input ∧ InStep n r.session q.session) ∨
    Apart n r.session q.session

namespace InStep

variable [Sink τ] [Launcher ℓ] [HasHandler β] {table : Table β} {prompting : Bool} {input : Input}

/-- Runs that have read the same line in step are linked if those from the next turn on are. -/
lemma linkedRuns_of_line {s₁ : Session σ τ ℓ} {t₁ : Session LimitedSink τ ℓ} (h : InStep n s₁ t₁)
    (hs : s.prompt prompting = (none, s₁)) (ht : t.prompt prompting = (none, t₁)) {line : Bytes}
    (hr : input.readLine.result = .line line)
    (htable : ∀ entry ∈ table, ∀ args, (HasHandler.handler entry.2 args).Whole)
    (hnext : ∀ {s : Session σ τ ℓ} {t : Session LimitedSink τ ℓ}, InStep n s t →
      LinkedRuns n (s.run table prompting input.readLine.input)
        (t.run table prompting input.readLine.input)) :
    LinkedRuns n (s.run table prompting input) (t.run table prompting input) := by
  have hexecute : Linked n ((s₁.afterReading input).executeLine table line)
      ((t₁.afterReading input).executeLine table line) :=
    (parallel.recording (parallel.afterReading h input) _).execute htable (.ofLine line)
  have hafter := (kept_extends.fromTurn_run table prompting input s).command s₁ line hs hr
  have hafter' := (kept_exhausted.fromTurn_run table prompting input t).command t₁ line ht hr
  rcases hx : (s₁.afterReading input).executeLine table line with ⟨status, after⟩
  rcases hx' : (t₁.afterReading input).executeLine table line with ⟨status', after'⟩
  rw [hx] at hafter hexecute
  rw [hx'] at hafter' hexecute
  rcases hexecute with ⟨hstatus, hstep⟩ | hapart
  · obtain rfl : status = status' := hstatus
    have hlauncher : after'.launcher = after.launcher := hstep.launcher_eq
    rw [run_of_readLine_eq_line hs hr, run_of_readLine_eq_line ht hr, hx, hx']
    simp only [hlauncher]
    split
    · exact Or.inl ⟨rfl, rfl, hstep⟩
    · -- Both flushes succeed, so that the runs end or go on together.
      obtain ⟨hf, hf', hflushed⟩ := hstep.flush
      rcases hout : after.flush with ⟨_, flushed⟩
      rcases hout' : after'.flush with ⟨_, flushed'⟩
      rw [hout] at hf hflushed
      rw [hout'] at hf' hflushed
      cases hf
      cases hf'
      cases status with
      | stop => exact Or.inl ⟨rfl, rfl, hflushed.note _⟩
      | proceed => exact hnext hflushed
  · exact Or.inr (hapart.later hafter hafter')

/-- Runs of sessions that are in step are linked if those from the next turn on are. -/
lemma linkedRuns_of_next (h : InStep n s t)
    (htable : ∀ entry ∈ table, ∀ args, (HasHandler.handler entry.2 args).Whole)
    (hnext : ∀ line, input.readLine.result = .line line →
      ∀ {s : Session σ τ ℓ} {t : Session LimitedSink τ ℓ}, InStep n s t →
      LinkedRuns n (s.run table prompting input.readLine.input)
        (t.run table prompting input.readLine.input)) :
    LinkedRuns n (s.run table prompting input) (t.run table prompting input) := by
  have hprompt := h.prompt prompting
  have hafter := (kept_extends.fromTurn_run table prompting input s).prompt
  have hafter' := (kept_exhausted.fromTurn_run table prompting input t).prompt
  rcases hs : s.prompt prompting with ⟨failure, s₁⟩
  rcases ht : t.prompt prompting with ⟨failure', t₁⟩
  rw [hs] at hprompt hafter
  rw [ht] at hprompt hafter'
  rcases hprompt with ⟨hfailure, hstep⟩ | hapart
  · obtain rfl : failure = failure' := hfailure
    cases failure with
    | some e =>
      rw [run_of_prompt_eq_some hs, run_of_prompt_eq_some ht]
      exact Or.inl ⟨rfl, rfl, hstep⟩
    | none =>
      have hread := parallel.afterReading hstep input
      cases hr : input.readLine.result with
      | failed e =>
        rw [run_of_readLine_eq_failed hs hr, run_of_readLine_eq_failed ht hr]
        exact Or.inl ⟨rfl, rfl, hread⟩
      | ended =>
        rw [run_of_readLine_eq_ended hs hr, run_of_readLine_eq_ended ht hr]
        exact Or.inl ⟨rfl, rfl, hread.note _⟩
      | line line => exact hstep.linkedRuns_of_line hs ht hr htable (hnext line hr)
  · exact Or.inr (hapart.later hafter hafter')

/-- Runs of sessions that are in step are linked. -/
theorem linkedRuns (h : InStep n s t) (table : Table β) (prompting : Bool) (input : Input)
    (htable : ∀ entry ∈ table, ∀ args, (HasHandler.handler entry.2 args).Whole) :
    LinkedRuns n (s.run table prompting input) (t.run table prompting input) := by
  -- Each turn leaves less of the input.
  induction hn : input.remaining using Nat.strongRecOn generalizing input s t with
  | _ m ih =>
    refine h.linkedRuns_of_next htable fun line hr s t hstep => ?_
    have hless : input.readLine.input.remaining < m := hn ▸ LineRead.remaining_readLine_lt hr
    exact ih _ hless hstep _ rfl

end InStep

/-- A stream with room for so many bytes accepts these bytes of what a stream accepts that accepts
everything, in whatever calls and with whatever interruptions, and its room goes down by as many.
If there is room for all of them, the same happens in both runs, they fail for the same reason or
not at all, and they leave the same of the input, the same files and the same launcher. -/
theorem run_printed_eq_take [Sink τ] [Launcher ℓ] (table : Table) (prompting : Bool)
    (input : Input) {out : σ} (hout : AcceptsAll out) {limited : LimitedSink} {n : Nat}
    (hroom : limited.room = some n) (hchunk : limited.chunk ≠ some 0)
    (hflush : limited.failingFlush = none) (err : τ) (launcher : ℓ) (files : FileSystem)
    (v : Verbosity) :
    let r := (start out err launcher files v).run table prompting input
    let q := (start limited err launcher files v).run table prompting input
    q.session.printed = r.session.printed.take n ∧
      q.session.out.room = some (n - r.session.printed.length) ∧
      (r.session.printed.length ≤ n →
        q.session.events = r.session.events ∧ q.failure = r.failure ∧ q.input = r.input ∧
          q.session.files = r.session.files ∧ q.session.launcher = r.session.launcher) := by
  intro r q
  have hstart : InStep n (start out err launcher files v) (start limited err launcher files v) :=
    ⟨rfl, hout, Nat.zero_le n, hroom, hchunk, hflush⟩
  have htable : ∀ entry ∈ table, ∀ args, (HasHandler.handler entry.2 args).Whole :=
    fun entry _ args => (entry.2.yields_handler args).mono fun _ _ => trivial
  rcases hstart.linkedRuns table prompting input htable with ⟨hfailure, hinput, hstep⟩ | hapart
  · refine ⟨?_, hstep.room.room, fun _ => ?_⟩
    · rw [hstep.printed_eq, List.take_of_length_le hstep.fits]
    · exact ⟨hstep.events_eq, hfailure.symm, hinput.symm, hstep.files_eq, hstep.launcher_eq⟩
  · refine ⟨hapart.printed, ?_, fun hfits => absurd hapart.exceeds (Nat.not_lt.mpr hfits)⟩
    rw [hapart.room.room, Nat.sub_eq_zero_of_le (Nat.le_of_lt hapart.exceeds)]

/-- Room for four bytes, in calls of one byte of which every other is interrupted: the first command
is cut off in the middle and nothing of the second is printed.  With room for all fourteen nothing
is different. -/
theorem run_printed_eq_take_echo :
    let table : Table := [("echo", .echo)]
    let input := Input.ofBytes (utf8 "echo a\necho\n")
    let limited (n : Nat) : LimitedSink := ⟨some n, none, some 1, true, 0, 0, none⟩
    let run {σ : Type} [Sink σ] (out : σ) := (start out LimitedSink.unlimited
      (⟨[]⟩ : ScriptedLauncher) ⟨[], [], [], []⟩ .off).run table false input
    (run (limited 4)).session.printed = utf8 "echo" ∧
      (run (limited 14)).session.events = (run LimitedSink.unlimited).session.events := by
  intro table input limited run
  have hprinted : (run LimitedSink.unlimited).session.printed = utf8 "echo|a|\necho|\n" := by
    subst table input limited run
    cbv
  have htake (n : Nat) := run_printed_eq_take table false input LimitedSink.acceptsAll_unlimited
    (rfl : (limited n).room = some n) (by simp [limited]) rfl LimitedSink.unlimited
    (⟨[]⟩ : ScriptedLauncher) ⟨[], [], [], []⟩ .off
  constructor
  · refine (htake 4).1.trans ?_
    rw [hprinted]
    decide
  · refine ((htake 14).2.2 ?_).1
    rw [hprinted]
    decide

end Session

end CommandShell
