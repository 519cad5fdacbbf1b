import CommandShell.Proofs.Creations
import CommandShell.Proofs.Room
import Mathlib

/-!
# Printing files

What there is to print is said by the files alone (`FileSystem.Printout`): the contents of all of
them, one after the other, or of those before the first that cannot be opened or read, and what is
read of that one.  The output gets all of it, or there is a failure to write and it gets a proper
beginning of it (`Session.Delivers`).

An output that takes everything does so in whatever pieces (`Sink.TakesAll`); what it is offered as
a whole does not fail.  Bytes that are printed as a whole are delivered or fall short, and so are
bytes that are printed block by block: after a block that was accepted the rest is what it is
without that block, and after one that was not nothing more is printed (`Session.run_printBlocks`).
In the same way files are printed one by one.
-/

namespace CommandShell

/-! ### Streams that take everything -/

namespace Sink

variable {σ : Type} [Sink σ] {s : σ}

/-- A stream fails if and only if it does not accept all bytes. -/
lemma failure_writeAll_eq_none_iff (s : σ) (bytes : Bytes) :
    (writeAll s bytes).count ≤ bytes.length ∧
      ((writeAll s bytes).failure = none ↔ (writeAll s bytes).count = bytes.length) := by
  fun_induction writeAll s bytes with
  | case1 s => exact ⟨le_rfl, by simp⟩
  | case2 s b rest e s' heq => exact ⟨Nat.zero_le _, by simp⟩
  | case3 s b rest s' heq ih => exact ih
  | case4 s b rest s' heq => exact ⟨Nat.zero_le _, by simp⟩
  | case5 s b rest n s' heq after ih =>
    have hcount :
        ((b :: rest).take (n + 1)).length + (rest.drop n).length = (b :: rest).length := by
      simp only [List.length_take, List.length_drop, List.length_cons]
      omega
    refine ⟨?_, ih.2.trans ?_⟩
    · exact hcount ▸ Nat.add_le_add_left ih.1 _
    · rw [← hcount, Nat.add_left_cancel_iff]

/-- Writing a whole byte string is made up of calls. -/
lemma called_writeAll (s : σ) (bytes : Bytes) :
    Relation.ReflTransGen Called s (writeAll s bytes).sink := by
  have hcall {s s' : σ} {bytes : Bytes} {answer : WriteAnswer}
      (h : Sink.write s bytes = (answer, s')) : Called s s' := by
    have hwrite := Called.write (s := s) bytes
    rwa [h] at hwrite
  fun_induction writeAll s bytes with
  | case1 s => exact .refl
  | case2 s b rest e s' heq => exact .single (hcall heq)
  | case3 s b rest s' heq ih => exact .head (hcall heq) ih
  | case4 s b rest s' heq => exact .single (hcall heq)
  | case5 s b rest n s' heq after ih => exact .head (hcall heq) ih

/-- A stream that takes every byte string as a whole, in however many calls, and goes on to do so.
-/
def TakesAll (s : σ) : Prop :=
  ∀ s', Relation.ReflTransGen Called s s' → ∀ bytes, (writeAll s' bytes).failure = none

/-- A stream that accepts everything in each call takes everything. -/
lemma AcceptsAll.takesAll (h : AcceptsAll s) : TakesAll s := fun s' hcalls bytes =>
  have haccepts : AcceptsAll s' := fun t ht => h t (hcalls.trans ht)
  (haccepts.writeAll_eq bytes).2.1

lemma TakesAll.writeAll (h : TakesAll s) (bytes : Bytes) : TakesAll (writeAll s bytes).sink :=
  fun s' hcalls => h s' ((called_writeAll s bytes).trans hcalls)

end Sink

open Sink (TakesAll)

namespace LimitedSink

/-- A stream without a limit to what it accepts in all, and with room for something in each call. -/
structure Roomy (s : LimitedSink) : Prop where
  room : s.room = none
  chunk : s.chunk ≠ some 0

namespace Roomy

variable {s : LimitedSink} (h : s.Roomy)
include h

/-- A write call is interrupted, or some bytes are accepted. -/
lemma write (bytes : Bytes) :
    match Sink.write s bytes with
    | (.interrupted, s') => s'.Roomy
    | (.failed _, _) => False
    | (.accepted n, s') => (bytes ≠ [] → n ≠ 0) ∧ s'.Roomy := by
  obtain ⟨hroom, hchunk⟩ := h
  simp only [Sink.write, LimitedSink.write, hroom, reduceCtorEq, false_and, if_false,
    Option.map_none]
  by_cases hturn : s.interrupting ∧ s.calls % 2 = 0
  · rw [if_pos hturn]
    exact ⟨rfl, hchunk⟩
  · rw [if_neg hturn]
    refine ⟨fun hbytes => ?_, rfl, hchunk⟩
    rw [← List.length_pos_iff] at hbytes
    cases hc : s.chunk with
    | none =>
      simp only [share, hroom, hc]
      omega
    | some k =>
      have hk : k ≠ 0 := fun h0 => hchunk (h0 ▸ hc)
      simp only [share, hroom, hc, List.length_take]
      omega

lemma failure_writeAll (bytes : Bytes) : (Sink.writeAll s bytes).failure = none := by
  fun_induction Sink.writeAll s bytes with
  | case1 s => rfl
  | case2 s b rest e s' heq =>
    have hwrite := h.write (b :: rest)
    rw [heq] at hwrite
    exact hwrite.elim
  | case3 s b rest s' heq ih =>
    have hwrite := h.write (b :: rest)
    rw [heq] at hwrite
    exact ih hwrite
  | case4 s b rest s' heq =>
    have hwrite := h.write (b :: rest)
    rw [heq] at hwrite
    exact absurd rfl (hwrite.1 (List.cons_ne_nil b rest))
  | case5 s b rest n s' heq after ih =>
    have hwrite := h.write (b :: rest)
    rw [heq] at hwrite
    exact ih hwrite.2

/-- A call leaves that as it is. -/
lemma of_called {s' : LimitedSink} (hcall : Sink.Called s s') : s'.Roomy := by
  cases hcall with
  | flush => exact ⟨h.room, h.chunk⟩
  | write bytes =>
    have hwrite := h.write bytes
    generalize Sink.write s bytes = answered at hwrite ⊢
    obtain ⟨n | _ | e, s'⟩ := answered
    · exact hwrite.2
    · exact hwrite
    · exact hwrite.elim

/-- Such a stream takes everything, in whatever pieces and with whatever interruptions. -/
theorem takesAll : TakesAll s := by
  intro s' hcalls bytes
  have hs' : s'.Roomy := by
    induction hcalls with
    | refl => exact h
    | tail _ hcall ih => exact ih.of_called hcall
  exact hs'.failure_writeAll bytes

end Roomy

end LimitedSink

namespace FileSystem

/-! ### What there is to print -/

/-- A file can be opened and read to its end. -/
def Reads (fs : FileSystem) (path : String) (content : Bytes) : Prop :=
  fs.openRead (utf8 path) = .ok ⟨content, none⟩

/-- What printing files in order comes to if all of it is accepted: the bytes that are printed, and
the verdict. -/
inductive Printout (fs : FileSystem) : List String → Bytes → Verdict → Prop
  /-- All files can be read. -/
  | all {paths : List String} {contents : List Bytes}
      (reads : List.Forall₂ fs.Reads paths contents) :
      Printout fs paths contents.flatten (.ok .proceed)
  /-- A file cannot be opened, and those before it can be read. -/
  | unopened {before after : List String} {path : String} {contents : List Bytes} {e : IoError}
      (reads : List.Forall₂ fs.Reads before contents) (fails : fs.openRead (utf8 path) = .error e) :
      Printout fs (before ++ path :: after) contents.flatten (.error (.cannotOpen path e))
  /-- A file cannot be read to its end, and those before it can. -/
  | unread {before after : List String} {path : String} {contents : List Bytes} {content : Bytes}
      {e : IoError} (reads : List.Forall₂ fs.Reads before contents)
      (fails : fs.openRead (utf8 path) = .ok ⟨content, some e⟩) :
      Printout fs (before ++ path :: after) (contents.flatten ++ content)
        (.error (.cannotRead path e))

/-- There is always something that printing files comes to. -/
theorem exists_printout (fs : FileSystem) (paths : List String) :
    ∃ output v, fs.Printout paths output v := by
  induction paths with
  | nil => exact ⟨_, _, .all .nil⟩
  | cons path rest ih =>
    cases hopen : fs.openRead (utf8 path) with
    | error e => exact ⟨_, _, (.unopened .nil hopen : fs.Printout ([] ++ path :: rest) _ _)⟩
    | ok reading =>
      obtain ⟨content, _ | e⟩ := reading
      · obtain ⟨output, v, hrest⟩ := ih
        cases hrest with
        | all reads => exact ⟨_, _, .all (.cons hopen reads)⟩
        | unopened reads fails => exact ⟨_, _, .unopened (.cons hopen reads) fails⟩
        | unread reads fails => exact ⟨_, _, .unread (.cons hopen reads) fails⟩
      · exact ⟨_, _, (.unread .nil hopen : fs.Printout ([] ++ path :: rest) _ _)⟩

end FileSystem

namespace Session

variable {σ τ ℓ : Type} [Sink σ] {s s' s'' : Session σ τ ℓ} {bytes more : Bytes}

/-! ### Bytes that are accepted -/

/-- Bytes were printed in a session, and nothing else was done. -/
structure Prints (s : Session σ τ ℓ) (bytes : Bytes) (s' : Session σ τ ℓ) : Prop where
  untouched : Untouched s s'
  printed : s'.printed = s.printed ++ bytes
  takesAll : TakesAll s.out → TakesAll s'.out

/-- Of some bytes a proper beginning was printed, and nothing else was done. -/
def FallsShort (s : Session σ τ ℓ) (bytes : Bytes) (s' : Session σ τ ℓ) : Prop :=
  ∃ accepted, accepted <+: bytes ∧ accepted ≠ bytes ∧ ¬ TakesAll s.out ∧ s.Prints accepted s'

lemma Prints.refl (s : Session σ τ ℓ) : s.Prints [] s :=
  ⟨.refl s, (List.append_nil _).symm, id⟩

lemma Prints.trans (h : s.Prints bytes s') (h' : s'.Prints more s'') :
    s.Prints (bytes ++ more) s'' where
  untouched := h.untouched.trans h'.untouched
  printed := by rw [h'.printed, h.printed, List.append_assoc]
  takesAll := h'.takesAll ∘ h.takesAll

/-- What falls short of the rest falls short of the whole. -/
lemma Prints.fallsShort (h : s.Prints bytes s') (h' : s'.FallsShort more s'') :
    s.FallsShort (bytes ++ more) s'' := by
  obtain ⟨accepted, hprefix, hne, hout, hprints⟩ := h'
  exact ⟨bytes ++ accepted, (List.prefix_append_right_inj bytes).mpr hprefix,
    fun heq => hne (List.append_cancel_left heq), fun htakes => hout (h.takesAll htakes),
    h.trans hprints⟩

/-- What falls short of the beginning falls short of the whole. -/
lemma FallsShort.append (h : s.FallsShort bytes s') (more : Bytes) :
    s.FallsShort (bytes ++ more) s' := by
  obtain ⟨accepted, hprefix, hne, hout, hprints⟩ := h
  refine ⟨accepted, hprefix.trans (List.prefix_append bytes more), fun heq => hne ?_, hout, hprints⟩
  exact hprefix.eq_of_length_le (by rw [heq, List.length_append]; omega)

/-- Bytes that are printed as a whole are accepted, or fall short with a failure. -/
lemma prints_print (s : Session σ τ ℓ) (bytes : Bytes) :
    (s.Prints bytes (s.print bytes).2 ∧ (s.print bytes).1 = none) ∨
      (s.FallsShort bytes (s.print bytes).2 ∧ ∃ e, (s.print bytes).1 = some e) := by
  obtain ⟨hprinted, hout⟩ := s.printed_print bytes
  obtain ⟨hle, hfailure⟩ := Sink.failure_writeAll_eq_none_iff s.out bytes
  have hprints : s.Prints (bytes.take (Sink.writeAll s.out bytes).count) (s.print bytes).2 :=
    ⟨.print s bytes, hprinted, fun h => hout ▸ h.writeAll bytes⟩
  cases hanswer : (Sink.writeAll s.out bytes).failure with
  | none =>
    rw [hfailure.mp hanswer, List.take_length] at hprints
    exact Or.inl ⟨hprints, hanswer⟩
  | some e =>
    have hne : (Sink.writeAll s.out bytes).count ≠ bytes.length := fun heq =>
      Option.some_ne_none e (hanswer.symm.trans (hfailure.mpr heq))
    refine Or.inr ⟨⟨_, List.take_prefix _ _, fun heq => hne ?_, fun h => ?_, hprints⟩, e, hanswer⟩
    · have hlength := congrArg List.length heq
      rw [List.length_take] at hlength
      omega
    · exact Option.some_ne_none e (hanswer.symm.trans (h s.out .refl bytes))

variable [Launcher ℓ]

/-- Bytes that are printed block by block are accepted, or fall short with a failure. -/
lemma run_printBlocks (next : Option IoError → Handler) (bytes : Bytes) (s : Session σ τ ℓ) :
    (∃ s', s.Prints bytes s' ∧
      (Handler.printBlocks next bytes).run s = (next none).run s') ∨
    ∃ s' e, s.FallsShort bytes s' ∧
      (Handler.printBlocks next bytes).run s = (next (some e)).run s' := by
  fun_induction Handler.printBlocks next bytes generalizing s with
  | case1 => exact Or.inl ⟨s, .refl s, rfl⟩
  | case2 b rest ih =>
    have hblocks : (b :: rest).take Handler.blockSize ++ rest.drop (Handler.blockSize - 1) =
        b :: rest := List.take_append_drop Handler.blockSize (b :: rest)
    have hprint := s.prints_print ((b :: rest).take Handler.blockSize)
    rw [Handler.run_print]
    generalize s.print ((b :: rest).take Handler.blockSize) = answered at hprint ⊢
    obtain ⟨answer, s₁⟩ := answered
    rcases hprint with ⟨hprints, rfl⟩ | ⟨hshort, e, rfl⟩
    · rcases ih s₁ with ⟨s', hrest, hrun⟩ | ⟨s', e, hrest, hrun⟩
      · exact Or.inl ⟨s', hblocks ▸ hprints.trans hrest, hrun⟩
      · exact Or.inr ⟨s', e, hblocks ▸ hprints.fallsShort hrest, hrun⟩
    · exact Or.inr ⟨s₁, e, hblocks ▸ hshort.append _, rfl⟩

/-! ### Files that are printed -/

/-- What was read of a file is accepted, and it was read to its end or not; or it falls short. -/
lemma run_printReading (reading : Reading) (next : Option IoError → Handler) (s : Session σ τ ℓ) :
    (∃ s', s.Prints reading.content s' ∧
      (Handler.printReading reading next).run s = (next reading.failure).run s') ∨
    ∃ s' e, s.FallsShort reading.content s' ∧
      (Handler.printReading reading next).run s = (next (some e)).run s' :=
  run_printBlocks _ reading.content s

omit [Sink σ] in
/-- A file is read, and nothing else happens. -/
lemma readFile_eq (hl : Aloof s.launcher) (path : Bytes) :
    s.readFile path = (some (s.files.openRead path), s) := by
  rw [readFile, hl.readFile]
  rfl

/-- All that there is to print was printed, and the verdict is the one for that; or it falls short,
and that is told as a failure to read one of the files. -/
def Delivers (s : Session σ τ ℓ) (paths : List String) (output : Bytes) (v : Verdict)
    (r : Verdict × Session σ τ ℓ) : Prop :=
  (s.Prints output r.2 ∧ r.1 = v) ∨
    (s.FallsShort output r.2 ∧ ∃ path ∈ paths, ∃ e, r.1 = .error (.cannotRead path e))

variable {fs : FileSystem} {paths before rest : List String} {contents : List Bytes}
  {output : Bytes} {v : Verdict}

/-- Files that can be read are printed one by one, and then the rest is. -/
lemma delivers_append (hreads : List.Forall₂ fs.Reads before contents)
    (hrest : ∀ s : Session σ τ ℓ, s.files = fs → Aloof s.launcher →
      s.Delivers rest output v ((Handler.printFiles rest).run s))
    (hfiles : s.files = fs) (hl : Aloof s.launcher) :
    s.Delivers (before ++ rest) (contents.flatten ++ output) v
      ((Handler.printFiles (before ++ rest)).run s) := by
  induction hreads generalizing s with
  | nil => exact hrest s hfiles hl
  | @cons path content before contents hread hreads ih =>
    have hopen : s.files.openRead (utf8 path) = .ok ⟨content, none⟩ := hfiles ▸ hread
    rw [List.cons_append, Handler.printFiles, Handler.run_read, readFile_eq hl, hopen,
      List.flatten_cons, List.append_assoc]
    simp only
    rcases s.run_printReading ⟨content, none⟩ _ with ⟨s', hprints, hrun⟩ | ⟨s', e, hshort, hrun⟩
    · rw [hrun]
      have hfiles' : s'.files = fs := hprints.untouched.files.trans hfiles
      have hl' : Aloof s'.launcher := hprints.untouched.launcher ▸ hl
      rcases ih hfiles' hl' with ⟨hall, hv⟩ | ⟨hshort, other, hother, e, hv⟩
      · exact Or.inl ⟨hprints.trans hall, hv⟩
      · exact Or.inr ⟨hprints.fallsShort hshort, other, List.mem_cons_of_mem _ hother, e, hv⟩
    · rw [hrun]
      exact Or.inr ⟨hshort.append _, path, List.mem_cons_self, e, rfl⟩

/-- Printing files delivers what there is to print. -/
theorem delivers_printFiles (h : fs.Printout paths output v) (hfiles : s.files = fs)
    (hl : Aloof s.launcher) : s.Delivers paths output v ((Handler.printFiles paths).run s) := by
  cases h with
  | all reads =>
    have hnil (s : Session σ τ ℓ) :
        s.Delivers [] [] (.ok .proceed) ((Handler.printFiles []).run s) := Or.inl ⟨.refl s, rfl⟩
    have hall := delivers_append reads (fun s _ _ => hnil s) hfiles hl
    rwa [List.append_nil, List.append_nil] at hall
  | @unopened before after path contents e reads fails =>
    rw [← List.append_nil contents.flatten]
    refine delivers_append reads (fun s hfiles hl => ?_) hfiles hl
    rw [Handler.printFiles, Handler.run_read, readFile_eq hl, hfiles, fails]
    exact Or.inl ⟨.refl s, rfl⟩
  | @unread before after path contents content e reads fails =>
    refine delivers_append reads (fun s hfiles hl => ?_) hfiles hl
    rw [Handler.printFiles, Handler.run_read, readFile_eq hl, hfiles, fails]
    simp only
    rcases s.run_printReading ⟨content, some e⟩ _ with ⟨s', hprints, hrun⟩ | ⟨s', e', hshort, hrun⟩
    · rw [hrun]
      exact Or.inl ⟨hprints, rfl⟩
    · rw [hrun]
      exact Or.inr ⟨hshort, path, List.mem_cons_self, e', rfl⟩

end Session

namespace Builtin

variable {σ τ ℓ : Type} [Sink σ] [Launcher ℓ] {s : Session σ τ ℓ} {args : ArgVector}

/-- Without programs that have a part in it, what `op` has to print is said by the files: the
contents of all files that it is given, or, if some of them cannot be opened or read, of those
before the first such file, and then what is read of that one; and then `op` fails for that file.
An output that takes everything, in however many calls, gets just that.  Any output gets a
beginning of it, and unless it gets all of it `op` fails for one of its files.  In all cases the
files stay as they are. -/
theorem run_print_eq_printout (hl : Aloof s.launcher) (hargs : args.actsOn ≠ []) :
    let paths := args.actsOn
    let r := print.run args s
    (∃ output v, s.files.Printout paths output v) ∧
    (∀ path e, (Failure.cannotOpen path e).headline = "op: cannot open " ++ path ∧
      (Failure.cannotRead path e).headline = "op: cannot read " ++ path) ∧
    ∀ output v, s.files.Printout paths output v →
      r.2.files = s.files ∧
      (TakesAll s.out → r.1 = v ∧ r.2.printed = s.printed ++ output) ∧
      ∃ accepted, accepted <+: output ∧ r.2.printed = s.printed ++ accepted ∧
        (accepted = output ∧ r.1 = v ∨
          accepted ≠ output ∧ ∃ path ∈ paths, ∃ e, r.1 = .error (.cannotRead path e)) := by
  intro paths r
  refine ⟨s.files.exists_printout paths, fun _ _ => ⟨rfl, rfl⟩, fun output v h => ?_⟩
  have hr : r = (Handler.printFiles paths).run s := by
    rw [← Handler.withPaths_of_actsOn .print Handler.printFiles hargs]
    rfl
  have hdelivers := Session.delivers_printFiles h rfl hl
  rw [← hr] at hdelivers
  rcases hdelivers with ⟨hprints, hv⟩ | ⟨⟨accepted, hprefix, hne, hout, hprints⟩, hfails⟩
  · exact ⟨hprints.untouched.files, fun _ => ⟨hv, hprints.printed⟩, output, List.prefix_rfl,
      hprints.printed, Or.inl ⟨rfl, hv⟩⟩
  · exact ⟨hprints.untouched.files, fun h => absurd h hout, accepted, hprefix, hprints.printed,
      Or.inr ⟨hne, hfails⟩⟩

/-- A file is printed twice, and then the beginning of a damaged one; what comes after that makes
no difference, and neither does an output that takes two bytes at a time.  With room for five bytes
the second printing is cut off, and that is a failure too. -/
theorem run_print_eq_printout_damaged :
    let files : FileSystem := ⟨[([utf8 "a"], .file (utf8 "one\n") 0o644),
      ([utf8 "b"], .damaged (utf8 "tw") .isDirectory)], [], [], []⟩
    let args : ArgVector := ["op", "a", "a", "b", "c"].map utf8
    let run {σ : Type} [Sink σ] (out : σ) :=
      print.run args (Session.start out LimitedSink.unlimited (⟨[]⟩ : ScriptedLauncher) files .off)
    let slow : LimitedSink := ⟨none, none, some 2, true, 0, 0, none⟩
    let limited : LimitedSink := ⟨some 5, none, none, true, 0, 0, none⟩
    ((run slow).1 = .error (.cannotRead "b" (.system .isDirectory)) ∧
      (run slow).2.printed = utf8 "one\none\ntw") ∧
      (run limited).2.printed = utf8 "one\no" ∧
      ∃ path ∈ args.actsOn, ∃ e, (run limited).1 = .error (.cannotRead path e) := by
  intro files args run slow limited
  have hargs : args.actsOn = ["a", "a", "b", "c"] := by
    cbv
  have hone : files.Reads "a" (utf8 "one\n") := by
    rw [FileSystem.Reads]
    cbv
  have hfails : files.openRead (utf8 "b") = .ok ⟨utf8 "tw", some (.system .isDirectory)⟩ := by
    cbv
  have hshort : (run limited).2.printed = utf8 "one\no" := by
    subst run limited
    cbv
  have hprintout : files.Printout args.actsOn
      ([utf8 "one\n", utf8 "one\n"].flatten ++ utf8 "tw")
      (.error (.cannotRead "b" (.system .isDirectory))) := by
    rw [hargs]
    exact .unread (.cons hone (.cons hone .nil)) hfails
  have hsome : args.actsOn ≠ [] := hargs ▸ List.cons_ne_nil _ _
  have hl : Aloof (⟨[]⟩ : ScriptedLauncher) := ScriptedLauncher.aloof _
  let session {σ : Type} (out : σ) : Session σ LimitedSink ScriptedLauncher :=
    .start out .unlimited ⟨[]⟩ files .off
  constructor
  · obtain ⟨-, -, hprints⟩ := run_print_eq_printout (s := session slow) hl hsome
    have hslow : slow.Roomy := ⟨rfl, by decide⟩
    exact (hprints _ _ hprintout).2.1 hslow.takesAll
  · obtain ⟨-, -, hprints⟩ := run_print_eq_printout (s := session limited) hl hsome
    obtain ⟨-, -, accepted, -, hprinted, hcases⟩ := hprints _ _ hprintout
    refine ⟨hshort, (hcases.resolve_left ?_).2⟩
    rintro ⟨rfl, -⟩
    exact absurd (hprinted.symm.trans hshort) (by decide)

end Builtin

end CommandShell
