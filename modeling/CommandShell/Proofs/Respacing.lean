import CommandShell.Proofs.Layout
import CommandShell.Proofs.Parallel
import CommandShell.Transcript
import Mathlib

/-!
# What stands between arguments

Delimiters do no more than separate.  If the gaps on the lines of an input become others, as long as
no newline comes or goes and no two arguments grow together, then a run does the same
(`Session.run_respaced`): the same happens in the session, to the streams, to the launcher and to
the files, and the result is the same.  Only how many bytes are taken may differ, and when the line
buffer grows.

Reading a line off inputs that differ so (`Arrival.Respaced`) gives lines with the same arguments,
which is all that commands get of a line.  So the sessions stay *akin*, the same but for the records
of enlargements of the line buffer (`Session.Akin`); every act keeps that, and that is all that
`Session.FullyParallel.run` asks for.
-/

namespace CommandShell

open LineRead (newline)

/-! ### Events that agree but for some -/

/-- Lists that agree but for items of a kind, of which each may have some that the other has not. -/
inductive AgreeBut {α : Type} (P : α → Prop) : List α → List α → Prop
  | nil : AgreeBut P [] []
  | cons {l m : List α} (a : α) (h : AgreeBut P l m) : AgreeBut P (a :: l) (a :: m)
  | left {l m : List α} {a : α} (ha : P a) (h : AgreeBut P l m) : AgreeBut P (a :: l) m
  | right {l m : List α} {a : α} (ha : P a) (h : AgreeBut P l m) : AgreeBut P l (a :: m)

namespace AgreeBut

variable {α β : Type} {P : α → Prop} {l m l' m' : List α}

lemma refl (l : List α) : AgreeBut P l l := by
  induction l with
  | nil => exact nil
  | cons a l ih => exact ih.cons a

lemma symm (h : AgreeBut P l m) : AgreeBut P m l := by
  induction h with
  | nil => exact nil
  | cons a _ ih => exact ih.cons a
  | left ha _ ih => exact ih.right ha
  | right ha _ ih => exact ih.left ha

lemma append (h : AgreeBut P l m) (h' : AgreeBut P l' m') : AgreeBut P (l ++ l') (m ++ m') := by
  induction h with
  | nil => exact h'
  | cons a _ ih => exact ih.cons a
  | left ha _ ih => exact ih.left ha
  | right ha _ ih => exact ih.right ha

/-- If there are no items of the kind, the lists are the same. -/
lemma eq_of_forall_not (hP : ∀ a, ¬ P a) (h : AgreeBut P l m) : l = m := by
  induction h with
  | nil => rfl
  | cons a _ ih => rw [ih]
  | left ha _ _ => exact absurd ha (hP _)
  | right ha _ _ => exact absurd ha (hP _)

/-- A fold that passes over the items of the kind comes to the same. -/
lemma foldr_eq {f : α → β → β} (hf : ∀ a, P a → ∀ b, f a b = b) (h : AgreeBut P l m) (b : β) :
    l.foldr f b = m.foldr f b := by
  induction h with
  | nil => rfl
  | cons a _ ih => rw [List.foldr_cons, List.foldr_cons, ih]
  | left ha _ ih => rw [List.foldr_cons, hf _ ha, ih]
  | right ha _ ih => rw [List.foldr_cons, hf _ ha, ih]

end AgreeBut

/-! ### Inputs with other gaps -/

/-- Two ways to write the same arguments on one line. -/
structure SameArguments (a b : Bytes) : Prop where
  left : newline ∉ a
  right : newline ∉ b
  layouts : ∃ l l' : Layout, l.line = a ∧ l'.line = b ∧ l.arguments = l'.arguments

namespace SameArguments

/-- What is cut out of both lines is the same. -/
lemma ofLine_eq {a b : Bytes} (h : SameArguments a b) :
    ArgVector.ofLine a = ArgVector.ofLine b := by
  obtain ⟨l, l', rfl, rfl, hargs⟩ := h.layouts
  rw [l.ofLine_line, l'.ofLine_line, hargs]

lemma of_ofLine_eq {a b : Bytes} (ha : newline ∉ a) (hb : newline ∉ b)
    (h : ArgVector.ofLine a = ArgVector.ofLine b) : SameArguments a b := by
  obtain ⟨l, rfl⟩ := exists_layout a
  obtain ⟨l', rfl⟩ := exists_layout b
  rw [l.ofLine_line, l'.ofLine_line] at h
  exact ⟨ha, hb, l, l', rfl, rfl, h⟩

lemma refl {a : Bytes} (ha : newline ∉ a) : SameArguments a a :=
  of_ofLine_eq ha ha rfl

/-- Gaps around a line do not change its arguments. -/
lemma enclose {a lead trail : Bytes} (ha : newline ∉ a) (hlead : IsGap lead) (htrail : IsGap trail)
    (hlead' : newline ∉ lead) (htrail' : newline ∉ trail) :
    SameArguments a (lead ++ a ++ trail) := by
  have hnone : newline ∉ lead ++ a ++ trail := by
    simp only [List.mem_append]
    rintro ((h | h) | h)
    · exact hlead' h
    · exact ha h
    · exact htrail' h
  refine of_ofLine_eq ha hnone ?_
  rw [List.append_assoc, ArgVector.ofLine_gap_append hlead]
  cases trail with
  | nil => rw [List.append_nil]
  | cons d trail =>
    obtain ⟨hd, htrail⟩ := List.forall_mem_cons.mp htrail
    rw [ArgVector.ofLine_append_cons a trail hd, ArgVector.ofLine_gap htrail, List.append_nil]

end SameArguments

namespace Arrival

/-- Two ways to let the same arguments arrive, line by line. -/
inductive Respaced : List Arrival → List Arrival → Prop
  /-- Nothing follows. -/
  | last {a b : Bytes} (h : SameArguments a b) : Respaced (a.map .byte) (b.map .byte)
  /-- What follows is a newline, an end or a failure, and then the same again. -/
  | cons {a b : Bytes} {stop : Arrival} {later later' : List Arrival} (h : SameArguments a b)
      (hstop : stop.byte? = none ∨ stop = .byte newline) (hlater : Respaced later later') :
      Respaced (a.map .byte ++ stop :: later) (b.map .byte ++ stop :: later')

/-- Bytes before a newline are stored. -/
lemma readLine_map_append {bytes : Bytes} (h : newline ∉ bytes) (buffer : GrowingBuffer UInt8)
    (items : List Arrival) :
    readLine buffer (bytes.map .byte ++ items) =
      readLine (bytes.foldl GrowingBuffer.push buffer) items := by
  induction bytes generalizing buffer with
  | nil => rfl
  | cons b bytes ih =>
    have hb : b ≠ newline := (List.ne_of_not_mem_cons h).symm
    have hbytes : newline ∉ bytes := List.not_mem_of_not_mem_cons h
    rw [List.map_cons, List.cons_append, readLine, if_neg hb, ih hbytes, List.foldl_cons]

namespace Respaced

lemma nil : Respaced [] [] :=
  last (.refl List.not_mem_nil)

/-- A call that reads a line finds the same arguments, the same end or the same failure, and leaves
the same again. -/
lemma readLine {items items' : List Arrival} (h : Respaced items items') (step : Nat) :
    LineResult.Alike (Arrival.readLine (.empty step) items).result
        (Arrival.readLine (.empty step) items').result ∧
      Respaced (Arrival.readLine (.empty step) items).left
        (Arrival.readLine (.empty step) items').left := by
  -- Either line is stored as a whole before what stops it, which is the same in both.
  cases h with
  | @last a b h =>
    rw [← List.append_nil (a.map Arrival.byte), ← List.append_nil (b.map Arrival.byte),
      readLine_map_append h.left, readLine_map_append h.right]
    exact ⟨.ended, nil⟩
  | @cons a b stop later later' h hstop hlater =>
    rw [readLine_map_append h.left, readLine_map_append h.right]
    cases stop with
    | ended => exact ⟨.ended, hlater⟩
    | failed e => exact ⟨.failed e, hlater⟩
    | byte c =>
      obtain rfl : c = newline := by simpa [byte?] using hstop
      rw [Arrival.readLine, if_pos rfl, Arrival.readLine, if_pos rfl]
      refine ⟨.line ?_, hlater⟩
      rw [GrowingBuffer.toList_foldl_push, GrowingBuffer.toList_foldl_push]
      exact h.ofLine_eq

/-- Lines may be put between gaps, all of them between the same ones. -/
lemma enclose {lead trail : Bytes} (hlead : IsGap lead) (htrail : IsGap trail)
    (hlead' : newline ∉ lead) (htrail' : newline ∉ trail) {lines : List Bytes}
    (hlines : ∀ line ∈ lines, newline ∉ line) {rest : Bytes} (hrest : newline ∉ rest) :
    Respaced ((lines.flatMap (· ++ [newline]) ++ rest).map .byte)
      ((lines.flatMap (fun line => lead ++ line ++ trail ++ [newline]) ++ rest).map .byte) := by
  induction lines with
  | nil => exact last (.refl hrest)
  | cons line lines ih =>
    obtain ⟨hline, hlines⟩ := List.forall_mem_cons.mp hlines
    have hsame : SameArguments line (lead ++ line ++ trail) :=
      .enclose hline hlead htrail hlead' htrail'
    have hstop : byte? (.byte newline) = none ∨ Arrival.byte newline = .byte newline := Or.inr rfl
    simpa using cons hsame hstop (ih hlines)

end Respaced

end Arrival

/-- What arrives on an input that consists of bytes. -/
lemma Input.arrivals_ofBytes (bytes : Bytes) : (ofBytes bytes).arrivals = bytes.map .byte := by
  rw [ofBytes, arrivals_ofEvents, InputEvent.arrivals, InputEvent.arrivals, List.append_nil]

namespace Session

variable {β σ τ ℓ : Type}

/-! ### Sessions that are akin -/

/-- The record of an enlargement of the line buffer, where it is kept. -/
def IsLineGrowth (v : Verbosity) (e : Event) : Prop :=
  ∃ n, e = .noted (LineRead.growthRecord n) ∧ v.admits (LineRead.growthRecord n).level = true

/-- Two sessions are the same but for the records of enlargements of the line buffer. -/
structure Akin (v : Verbosity) (s t : Session σ τ ℓ) : Prop where
  out : s.out = t.out
  err : s.err = t.err
  launcher : s.launcher = t.launcher
  files : s.files = t.files
  verbosity : s.verbosity = v ∧ t.verbosity = v
  events : AgreeBut (IsLineGrowth v) s.events t.events

namespace Akin

variable {v : Verbosity} {s t : Session σ τ ℓ}

lemma refl (s : Session σ τ ℓ) : Akin s.verbosity s s :=
  ⟨rfl, rfl, rfl, rfl, ⟨rfl, rfl⟩, .refl _⟩

lemma symm (h : Akin v s t) : Akin v t s :=
  ⟨h.out.symm, h.err.symm, h.launcher.symm, h.files.symm, h.verbosity.symm, h.events.symm⟩

/-- The same happens in both. -/
lemma happen (h : Akin v s t) (e : Event) : Akin v (s.happen e) (t.happen e) where
  out := h.out
  err := h.err
  launcher := h.launcher
  files := h.files
  verbosity := h.verbosity
  events := by
    rw [events_happen, events_happen]
    exact h.events.append (.refl [e])

lemma note (h : Akin v s t) (r : Record) : Akin v (s.note r) (t.note r) := by
  rw [Session.note, Session.note, h.verbosity.1, h.verbosity.2]
  split
  · exact h.happen _
  · exact h

/-- An enlargement of the line buffer is recorded in one of them only. -/
lemma note_growth (h : Akin v s t) (n : Nat) : Akin v (s.note (LineRead.growthRecord n)) t := by
  rw [Session.note, h.verbosity.1]
  split
  · next hkept =>
    refine ⟨h.out, h.err, h.launcher, h.files, h.verbosity, ?_⟩
    have hevents := h.events.append (.left ⟨n, rfl, hkept⟩ .nil)
    rwa [List.append_nil, ← events_happen] at hevents
  · exact h

lemma noteAll_growth (h : Akin v s t) (ns : List Nat) :
    Akin v (s.noteAll (ns.map LineRead.growthRecord)) t := by
  induction ns generalizing s with
  | nil => exact h
  | cons n ns ih => exact ih (h.note_growth n)

/-- Reading a line leaves them akin, whatever is read in each. -/
lemma afterReading (h : Akin v s t) (i j : Input) :
    Akin v (s.afterReading i) (t.afterReading j) := by
  obtain ⟨-, hrecords, -⟩ := i.readLine_eq
  obtain ⟨-, hrecords', -⟩ := j.readLine_eq
  rw [Session.afterReading, Session.afterReading, hrecords, hrecords']
  -- The enlargements are those of lines of different lengths, so each session gets its own.
  exact (((h.happen .asked).noteAll_growth _).symm.noteAll_growth _).symm

/-- The same is seen of both. -/
lemma sights_eq (h : Akin v s t) : s.sights = t.sights := by
  refine h.events.foldr_eq ?_ []
  rintro e ⟨n, rfl, -⟩ later
  rfl

/-- Where such records are not kept, the same has happened in both. -/
lemma events_eq (h : Akin v s t) (hv : v.admits .trace = false) : s.events = t.events := by
  refine h.events.eq_of_forall_not ?_
  rintro e ⟨n, -, hkept⟩
  rw [LineRead.growthRecord, hv] at hkept
  cases hkept

end Akin

/-- Inputs that let the same arguments arrive are read alike. -/
lemma readsAlike_respaced (v : Verbosity) :
    ReadsAlike (Akin v : Session σ τ ℓ → Session σ τ ℓ → Prop)
      fun i j => Arrival.Respaced i.arrivals j.arrivals where
  result {i j} h := by
    rw [i.readLine_eq.1, j.readLine_eq.1]
    exact (h.readLine LineRead.byteStep).1
  input {i j} h := by
    rw [i.readLine_eq.2.2, j.readLine_eq.2.2]
    exact (h.readLine LineRead.byteStep).2
  session {i j} _ _ _ h := h.afterReading i j

variable [Sink σ] [Sink τ]

/-- Every act keeps sessions akin, and is answered the same. -/
lemma fullyParallel_akin (v : Verbosity) :
    FullyParallel (Akin v : Session σ τ ℓ → Session σ τ ℓ → Prop) :=
  .of_abreast (fun h => ⟨h.out, h.err, h.launcher, h.files⟩)
    (fun h _ _ _ _ => ⟨rfl, rfl, rfl, rfl, h.verbosity, h.events⟩) (fun h e _ => h.happen e)
    fun h r => h.note r

variable [Launcher ℓ] [HasHandler β]

/-- What stands between the arguments on the lines of an input makes no difference, for any table,
any launcher, any streams and any session: with other gaps a run has the same result, and leaves the
same streams, launcher and files.  The same has happened but for the records of enlargements of the
line buffer, so the same is seen; and what is left of the inputs differs in its gaps at most.  In
particular all lines may be put between gaps, be it a carriage return before each newline or
quotation marks around each line. -/
theorem run_respaced (table : Table β) (prompting : Bool) (s : Session σ τ ℓ) :
    (∀ i j : Input, Arrival.Respaced i.arrivals j.arrivals →
      let r := s.run table prompting i
      let r' := s.run table prompting j
      r.failure = r'.failure ∧ Akin s.verbosity r.session r'.session ∧
        r.session.sights = r'.session.sights ∧
        (s.verbosity.admits .trace = false → r.session.events = r'.session.events) ∧
        Arrival.Respaced r.input.arrivals r'.input.arrivals) ∧
    (∀ lead trail : Bytes, IsGap lead → IsGap trail → newline ∉ lead → newline ∉ trail →
      ∀ lines : List Bytes, (∀ line ∈ lines, newline ∉ line) → ∀ rest : Bytes, newline ∉ rest →
        Arrival.Respaced
          (Input.ofBytes (lines.flatMap (· ++ [newline]) ++ rest)).arrivals
          (Input.ofBytes (lines.flatMap (fun line => lead ++ line ++ trail ++ [newline]) ++
            rest)).arrivals) := by
  constructor
  · intro i j hij
    obtain ⟨hfailure, hinput, hakin⟩ :=
      (fullyParallel_akin s.verbosity).run (readsAlike_respaced _) table prompting hij (Akin.refl s)
    exact ⟨hfailure, hakin, hakin.sights_eq, hakin.events_eq, hinput⟩
  · intro lead trail hlead htrail hlead' htrail' lines hlines rest hrest
    rw [Input.arrivals_ofBytes, Input.arrivals_ofBytes]
    exact .enclose hlead htrail hlead' htrail' hlines hrest

/-- A line with quotation marks, a tab and a carriage return, one with blanks around it that arrives
in two parts, and one that has no newline come to the same as those lines without all that: the
program of the first one is launched with its argument, and the second one ends the loop.  Putting a
carriage return before each newline is no more than that. -/
theorem run_respaced_quoted :
    let s := start LimitedSink.unlimited LimitedSink.unlimited (⟨[]⟩ : ScriptedLauncher)
      ⟨[], [], [], []⟩ (.upTo .debug)
    let i := Input.ofBytes (utf8 "ls -la\nexit\nls")
    let j := Input.ofEvents
      [.chunk (utf8 "'ls\t-la'\r\n ex"), .interrupted, .chunk (utf8 "it \n ls")]
    (s.run Table.standard true i).session.events =
        (s.run Table.standard true j).session.events ∧
      (s.run Table.standard true j).session.launches = [[utf8 "ls", utf8 "-la"]] ∧
      Arrival.Respaced i.arrivals (Input.ofBytes (utf8 "ls -la\r\nexit\r\nls")).arrivals := by
  intro s i j
  have hfirst : SameArguments (utf8 "ls -la") (utf8 "'ls\t-la'\r") :=
    .of_ofLine_eq (by decide) (by decide) (by decide)
  have hsecond : SameArguments (utf8 "exit") (utf8 " exit ") :=
    .of_ofLine_eq (by decide) (by decide) (by decide)
  have hthird : SameArguments (utf8 "ls") (utf8 " ls") :=
    .of_ofLine_eq (by decide) (by decide) (by decide)
  have hrespaced : Arrival.Respaced i.arrivals j.arrivals :=
    .cons hfirst (Or.inr rfl) (.cons hsecond (Or.inr rfl) (.last hthird))
  obtain ⟨hrun, hlines⟩ := run_respaced Table.standard true s
  have hevents : (s.run Table.standard true i).session.events =
      (s.run Table.standard true j).session.events := (hrun i j hrespaced).2.2.2.1 rfl
  have hlaunches : (s.run Table.standard true i).session.launches =
      [[utf8 "ls", utf8 "-la"]] := by
    subst s i
    cbv
  refine ⟨hevents, (congrArg (List.filterMap Event.launched?) hevents).symm.trans hlaunches, ?_⟩
  have hlead : IsGap [] := fun b hb => absurd hb List.not_mem_nil
  have htrail : IsGap [0x0D] := by
    intro b hb
    rw [List.mem_singleton.mp hb]
    rfl
  exact hlines [] [0x0D] hlead htrail (by decide) (by decide) [utf8 "ls -la", utf8 "exit"]
    (by decide) (utf8 "ls") (by decide)

end Session

end CommandShell
