import CommandShell.Proofs.Parallel
import CommandShell.Sink.Limited
import CommandShell.Transcript
import Mathlib.Logic.Relation

/-!
# Streams that accept everything

Streams that accept everything and flush without failing (`Sink.AcceptsAll`) give the same answers,
whatever they do with the bytes.  So a command cannot tell such streams apart, and neither can the
rest of the interpreter: two sessions with the same launcher and the same files come to the same
verdicts, and the same is seen of them.

The argument has two layers.  `Session.Leads` says of a single act which events it makes visible;
the acts on the streams are its instances.  `Session.Mirrors` relates two sessions of which the same
is seen but for the beginning.  It is kept by acts that lead both sessions through the same events,
so every act keeps it that is done in both (`Session.fullyParallel_mirrors`).
-/

namespace CommandShell

namespace Sink

variable {σ : Type} [Sink σ]

/-- A stream before and after a call. -/
inductive Called : σ → σ → Prop
  /-- Bytes are written. -/
  | write (s : σ) (bytes : Bytes) : Called s (Sink.write s bytes).2
  /-- The stream is flushed. -/
  | flush (s : σ) : Called s (Sink.flush s).2

/-- Whatever calls are made on a stream, the next write call accepts all bytes, and the next flush
succeeds. -/
def AcceptsAll (s : σ) : Prop :=
  ∀ s', Relation.ReflTransGen Called s s' →
    (∀ bytes, (Sink.write s' bytes).1 = .accepted bytes.length) ∧ (Sink.flush s').1 = none

/-- An invariant of the calls under which everything is accepted makes a stream one that accepts
everything. -/
lemma acceptsAll_of_invariant {P : σ → Prop} {s : σ} (hs : P s)
    (hwrite : ∀ s bytes, P s →
      (Sink.write s bytes).1 = .accepted bytes.length ∧ P (Sink.write s bytes).2)
    (hflush : ∀ s, P s → (Sink.flush s).1 = none ∧ P (Sink.flush s).2) : AcceptsAll s := by
  intro s' hcalls
  have hs' : P s' := by
    induction hcalls with
    | refl => exact hs
    | tail _ hcall ih =>
      cases hcall with
      | write bytes => exact (hwrite _ bytes ih).2
      | flush => exact (hflush _ ih).2
  exact ⟨fun bytes => (hwrite s' bytes hs').1, (hflush s' hs').1⟩

namespace AcceptsAll

variable {s : σ} (h : AcceptsAll s)
include h

/-- A write call accepts all bytes. -/
lemma write_fst (bytes : Bytes) : (Sink.write s bytes).1 = .accepted bytes.length :=
  (h s .refl).1 bytes

/-- A flush succeeds. -/
lemma flush_fst : (Sink.flush s).1 = none :=
  (h s .refl).2

/-- After a call a stream still accepts everything. -/
lemma of_called {s' : σ} (hcall : Called s s') : AcceptsAll s' :=
  fun t ht => h t (.head hcall ht)

/-- Writing a whole byte string takes no more than one call. -/
lemma writeAll_eq (bytes : Bytes) :
    (Sink.writeAll s bytes).count = bytes.length ∧ (Sink.writeAll s bytes).failure = none ∧
      AcceptsAll (Sink.writeAll s bytes).sink := by
  cases bytes with
  | nil => simpa [Sink.writeAll] using h
  | cons b rest =>
    have hfst := h.write_fst (b :: rest)
    have hsnd := h.of_called (.write s (b :: rest))
    unfold Sink.writeAll
    split
    · next heq => rw [heq] at hfst; cases hfst
    · next heq => rw [heq] at hfst; cases hfst
    · next heq => rw [heq] at hfst; cases hfst
    · next heq =>
      rw [heq] at hfst hsnd
      cases hfst
      simp only [List.drop_length, List.length_cons, List.take_succ_cons, List.take_length,
        Sink.writeAll, Nat.add_zero, true_and]
      exact hsnd

end AcceptsAll

end Sink

/-- A stream without any limit accepts everything. -/
lemma LimitedSink.acceptsAll_unlimited : Sink.AcceptsAll unlimited := by
  refine Sink.acceptsAll_of_invariant (P := fun s => s.room = none ∧ s.chunk = none ∧
    s.interrupting = false ∧ s.failingFlush = none) ⟨rfl, rfl, rfl, rfl⟩ ?_ ?_
  · rintro ⟨room, full, chunk, interrupting, calls, flushes, failing⟩ bytes ⟨hr, hc, hi, hf⟩
    cases hr; cases hc; cases hi; cases hf
    exact ⟨rfl, rfl, rfl, rfl, rfl⟩
  · rintro ⟨room, full, chunk, interrupting, calls, flushes, failing⟩ ⟨hr, hc, hi, hf⟩
    cases hr; cases hc; cases hi; cases hf
    exact ⟨rfl, rfl, rfl, rfl, rfl⟩

namespace Session

open Sink (AcceptsAll)

variable {β σ τ σ' τ' ℓ : Type}

/-! ### What is seen of a session -/

/-- What is seen of a session and of what comes later. -/
def shown (s : Session σ τ ℓ) (later : List Sight) : List Sight :=
  s.events.foldr Sight.prepend later

/-- An event is seen before what comes later. -/
lemma shown_happen (s : Session σ τ ℓ) (e : Event) (later : List Sight) :
    (s.happen e).shown later = s.shown (Sight.prepend e later) := by
  simp [shown, events, happen]

/-- The event of bytes that a stream has accepted, if there are any. -/
def accepting (event : Bytes → Event) (bytes : Bytes) : List Event :=
  if bytes = [] then [] else [event bytes]

/-- Two pieces of output that follow each other are seen as one. -/
lemma foldr_accepting_append (a : Bytes) {b : Bytes} (hb : b ≠ []) (later : List Sight) :
    (accepting .output a ++ accepting .output b).foldr Sight.prepend later =
      Sight.prepend (.output (a ++ b)) later := by
  rw [accepting, accepting, if_neg hb]
  split
  · next ha => rw [ha]; rfl
  · cases later with
    | nil => simp [Sight.prepend, Sight.prependOutput]
    | cons sight later => cases sight <;> simp [Sight.prepend, Sight.prependOutput]

variable [Sink σ] [Sink τ] [Sink σ'] [Sink τ']

/-- The streams of a session accept everything. -/
structure Accepts (s : Session σ τ ℓ) : Prop where
  out : AcceptsAll s.out
  err : AcceptsAll s.err

/-- A session leads to another one through events that are seen, and otherwise only the streams have
changed, which still accept everything. -/
structure Leads (events : List Event) (s s' : Session σ τ ℓ) : Prop where
  accepts : s'.Accepts
  launcher : s'.launcher = s.launcher
  files : s'.files = s.files
  shown : ∀ later, s'.shown later = s.shown (events.foldr Sight.prepend later)

namespace Leads

variable {s s' s'' : Session σ τ ℓ}

lemma refl (h : s.Accepts) : Leads [] s s :=
  ⟨h, rfl, rfl, fun _ => rfl⟩

lemma trans {a b : List Event} (h : Leads a s s') (h' : Leads b s' s'') : Leads (a ++ b) s s'' where
  accepts := h'.accepts
  launcher := h'.launcher.trans h.launcher
  files := h'.files.trans h.files
  shown later := by rw [h'.shown, h.shown, List.foldr_append]

/-- Only what is seen of the events counts. -/
lemma congr {a b : List Event} (h : Leads a s s')
    (hab : ∀ later, a.foldr Sight.prepend later = b.foldr Sight.prepend later) : Leads b s s' :=
  ⟨h.accepts, h.launcher, h.files, fun later => by rw [h.shown, hab]⟩

/-- Something happens. -/
lemma happen (h : s.Accepts) (e : Event) : Leads [e] s (s.happen e) :=
  ⟨⟨h.out, h.err⟩, rfl, rfl, shown_happen s e⟩

/-- That a line is asked for is not seen. -/
lemma asked (h : s.Accepts) : Leads [] s (s.happen .asked) :=
  ⟨⟨h.out, h.err⟩, rfl, rfl, shown_happen s .asked⟩

/-- Records are not seen. -/
lemma note (h : s.Accepts) (r : Record) : Leads [] s (s.note r) := by
  rw [Session.note]
  split
  · exact ⟨⟨h.out, h.err⟩, rfl, rfl, shown_happen s (.noted r)⟩
  · exact refl h

/-- Records are not seen, however many. -/
lemma noteAll (h : s.Accepts) (rs : List Record) : Leads [] s (s.noteAll rs) := by
  induction rs generalizing s with
  | nil => exact refl h
  | cons r rs ih => exact (note h r).trans (ih (note h r).accepts)

/-- Bytes are printed as a whole. -/
lemma print (h : s.Accepts) (bytes : Bytes) :
    (s.print bytes).1 = none ∧ Leads (accepting .output bytes) s (s.print bytes).2 := by
  obtain ⟨hcount, hfailure, hsink⟩ := h.out.writeAll_eq bytes
  refine ⟨hfailure, ?_⟩
  simp only [Session.print, hcount, List.length_eq_zero_iff, List.take_length, accepting]
  split
  · exact ⟨⟨hsink, h.err⟩, rfl, rfl, fun _ => rfl⟩
  · exact ⟨⟨hsink, h.err⟩, rfl, rfl, shown_happen _ (.output bytes)⟩

/-- A write call accepts all bytes. -/
lemma offer (h : s.Accepts) (bytes : Bytes) :
    (s.offer bytes).1 = .accepted bytes.length ∧
      Leads (accepting .output bytes) s (s.offer bytes).2 := by
  have hfst := h.out.write_fst bytes
  have hsnd := h.out.of_called (.write s.out bytes)
  refine ⟨hfst, ?_⟩
  simp only [Session.offer, hfst, WriteAnswer.count, List.take_length, accepting]
  split
  · exact ⟨⟨hsnd, h.err⟩, rfl, rfl, fun _ => rfl⟩
  · exact ⟨⟨hsnd, h.err⟩, rfl, rfl, shown_happen _ (.output bytes)⟩

/-- A flush succeeds. -/
lemma flush (h : s.Accepts) : s.flush.1 = none ∧ Leads [.flushed true] s s.flush.2 :=
  ⟨h.out.flush_fst, ⟨h.out.of_called (.flush s.out), h.err⟩, rfl, rfl, shown_happen _ (.flushed _)⟩

/-- A diagnostic line is accepted. -/
lemma report (h : s.Accepts) (text : String) :
    Leads (accepting .diagnostics (utf8 ("lsh: " ++ text ++ "\n"))) s (s.report text) := by
  obtain ⟨hcount, hfailure, hsink⟩ := h.err.writeAll_eq (utf8 ("lsh: " ++ text ++ "\n"))
  have herr := hsink.of_called (.flush _)
  simp only [Session.report, hcount, hfailure, Option.isNone_none, if_true,
    List.length_eq_zero_iff, List.take_length, accepting]
  split
  · exact ⟨⟨h.out, herr⟩, rfl, rfl, fun _ => rfl⟩
  · exact ⟨⟨h.out, herr⟩, rfl, rfl, shown_happen _ (.diagnostics _)⟩

end Leads

/-! ### Sessions that cannot be told apart -/

/-- The same is seen of two sessions, but for the beginning of the first.  Their launchers and files
are the same, and their streams accept everything. -/
structure Mirrors (before : List Sight → List Sight) (s : Session σ τ ℓ) (t : Session σ' τ' ℓ) :
    Prop where
  left : s.Accepts
  right : t.Accepts
  launcher : s.launcher = t.launcher
  files : s.files = t.files
  shown : ∀ later, s.shown later = before (t.shown later)

namespace Mirrors

variable {before : List Sight → List Sight} {s s' : Session σ τ ℓ} {t t' : Session σ' τ' ℓ}

/-- Acts that lead through the same events keep sessions alike. -/
lemma of_leads {events : List Event} (h : Mirrors before s t) (hs : Leads events s s')
    (ht : Leads events t t') : Mirrors before s' t' where
  left := hs.accepts
  right := ht.accepts
  launcher := by rw [hs.launcher, ht.launcher, h.launcher]
  files := by rw [hs.files, ht.files, h.files]
  shown later := by rw [hs.shown, ht.shown, h.shown]

/-- Any session is alike one in which nothing has happened yet. -/
lemma start (h : s.Accepts) {out : σ'} {err : τ'} (hout : AcceptsAll out) (herr : AcceptsAll err)
    (v : Verbosity) : Mirrors s.shown s (Session.start out err s.launcher s.files v) :=
  ⟨h, ⟨hout, herr⟩, rfl, rfl, fun _ => rfl⟩

end Mirrors

/-- Every act keeps sessions alike, and is answered the same. -/
lemma fullyParallel_mirrors (before : List Sight → List Sight) :
    FullyParallel (Mirrors before : Session σ τ ℓ → Session σ' τ' ℓ → Prop) where
  launcher h := h.launcher
  files h := h.files
  flush h := by
    obtain ⟨hs, hs'⟩ := Leads.flush h.left
    obtain ⟨ht, ht'⟩ := Leads.flush h.right
    exact ⟨hs.trans ht.symm, h.of_leads hs' ht'⟩
  report h text := h.of_leads (Leads.report h.left text) (Leads.report h.right text)
  note h r := h.of_leads (Leads.note h.left r) (Leads.note h.right r)
  happen h e _ := h.of_leads (Leads.happen h.left e) (Leads.happen h.right e)
  replace h _ _ := ⟨⟨h.left.out, h.left.err⟩, ⟨h.right.out, h.right.err⟩, rfl, rfl, h.shown⟩
  print h bytes := by
    obtain ⟨hs, hs'⟩ := Leads.print h.left bytes
    obtain ⟨ht, ht'⟩ := Leads.print h.right bytes
    exact ⟨hs.trans ht.symm, h.of_leads hs' ht'⟩
  offer h bytes := by
    obtain ⟨hs, hs'⟩ := Leads.offer h.left bytes
    obtain ⟨ht, ht'⟩ := Leads.offer h.right bytes
    exact ⟨hs.trans ht.symm, h.of_leads hs' ht'⟩

end Session

end CommandShell
