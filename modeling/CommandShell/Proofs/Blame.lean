import CommandShell.Proofs.Printouts
import Mathlib

/-!
# Failures that are told of a file

Printing files goes from one file to the next as long as each can be opened, read to its end and
written (`Session.run_printFiles_cons`).  So if it ends with a failure to read a file, that file was
opened, and there are two ways in which it came to that.  In the one all that was read of the file
was written, and then the reading failed (`Session.Unread`).  In the other the output did not take
what was read (`Session.Unwritten`).

Where a file is never opened, or never read to its end, there is no verdict, and the files after it
are not looked at.

The failure that is told is the same in both.  With an output that takes everything it is always the
first, and then the file that is named is the one that cannot be read
(`Session.not_unwritten_of_takesAll`).  If all files can be read, it is always the second.
-/

namespace CommandShell

open Sink (Called TakesAll)

namespace Session

variable {σ τ ℓ : Type} [Sink σ]

/-! ### Blocks -/

/-- Prints bytes block by block, up to the first block that is not taken; the answer is why that
failed, if it did. -/
def printBlocks (s : Session σ τ ℓ) (bytes : Bytes) : Option IoError × Session σ τ ℓ :=
  match bytes with
  | [] => (none, s)
  | b :: rest =>
    match s.print ((b :: rest).take Handler.blockSize) with
    | (some e, s') => (some e, s')
    | (none, s') => s'.printBlocks (rest.drop (Handler.blockSize - 1))
termination_by bytes.length
decreasing_by simp only [List.length_drop, List.length_cons]; omega

/-- An output that takes everything takes all blocks. -/
lemma printBlocks_of_takesAll {s : Session σ τ ℓ} (h : TakesAll s.out) (bytes : Bytes) :
    (s.printBlocks bytes).1 = none := by
  fun_induction s.printBlocks bytes with
  | case1 => rfl
  | case2 s b rest e s' heq =>
    have hfailure : (s.print ((b :: rest).take Handler.blockSize)).1 = none := h s.out .refl _
    rw [heq] at hfailure
    cases hfailure
  | case3 s b rest s' heq ih =>
    have hout := (s.printed_print ((b :: rest).take Handler.blockSize)).2
    rw [heq] at hout
    exact ih (hout ▸ h.writeAll _)

/-- Whole blocks are printed before what follows them, which is not looked at if they are not
taken. -/
lemma printBlocks_append {bytes : Bytes} (hwhole : Handler.blockSize ∣ bytes.length) (more : Bytes)
    (s : Session σ τ ℓ) :
    s.printBlocks (bytes ++ more) =
      match s.printBlocks bytes with
      | (some e, s') => (some e, s')
      | (none, s') => s'.printBlocks more := by
  fun_induction s.printBlocks bytes with
  | case1 => rfl
  | case2 s b rest e s' heq =>
    have hlength : Handler.blockSize ≤ (b :: rest).length :=
      Nat.le_of_dvd (Nat.succ_pos rest.length) hwhole
    rw [List.cons_append, printBlocks, ← List.cons_append,
      List.take_append_of_le_length hlength, heq]
  | case3 s b rest s' heq ih =>
    have hlength : Handler.blockSize ≤ (b :: rest).length :=
      Nat.le_of_dvd (Nat.succ_pos rest.length) hwhole
    have hrest : Handler.blockSize - 1 ≤ rest.length := by
      rw [List.length_cons] at hlength
      omega
    have hwhole' : Handler.blockSize ∣ (rest.drop (Handler.blockSize - 1)).length := by
      have hdrop : (rest.drop (Handler.blockSize - 1)).length =
          (b :: rest).length - Handler.blockSize := by
        simp only [List.length_drop, List.length_cons, Handler.blockSize]
        omega
      rw [hdrop]
      exact Nat.dvd_sub hwhole (dvd_refl Handler.blockSize)
    rw [List.cons_append, printBlocks, ← List.cons_append,
      List.take_append_of_le_length hlength, heq]
    simp only
    rw [List.drop_append_of_le_length hrest]
    exact ih hwhole'

/-- Zeros that a device gives are whole blocks. -/
lemma blockSize_dvd_length_zeros (blocks : Nat) :
    Handler.blockSize ∣ (Reading.zeros blocks).content.length :=
  List.length_replicate ▸ Nat.dvd_mul_left Handler.blockSize blocks

/-- More zeros come after those that there are anyway. -/
lemma content_zeros_add (blocks more : Nat) : (Reading.zeros (blocks + more)).content =
    (Reading.zeros blocks).content ++ (Reading.zeros more).content := by
  simp only [Reading.zeros, Nat.add_mul, List.replicate_add]

variable [Launcher ℓ]

/-- A handler that prints bytes block by block goes on as the answer says. -/
lemma run?_printBlocks (next : Option IoError → Handler) (bytes : Bytes) (s : Session σ τ ℓ) :
    (Handler.printBlocks next bytes).run? s =
      (next (s.printBlocks bytes).1).run? (s.printBlocks bytes).2 := by
  fun_induction s.printBlocks bytes with
  | case1 => rw [Handler.printBlocks]
  | case2 s b rest e s' heq => rw [Handler.printBlocks, Handler.run?, heq]
  | case3 s b rest s' heq ih => rw [Handler.printBlocks, Handler.run?, heq, ← ih]

/-- An entry stands for a device without end on an output that does not take all of its zeros: more
of them make no difference there. -/
theorem run?_printReading_zeros {s : Session σ τ ℓ} {blocks : Nat}
    (hfails : (s.printBlocks (Reading.zeros blocks).content).1 ≠ none) (more : Nat)
    (next : Option IoError → Handler) :
    (Handler.printReading (.zeros (blocks + more)) next).run? s =
      (Handler.printReading (.zeros blocks) next).run? s := by
  have hsame : s.printBlocks (Reading.zeros (blocks + more)).content =
      s.printBlocks (Reading.zeros blocks).content := by
    rw [content_zeros_add, printBlocks_append (blockSize_dvd_length_zeros blocks)]
    generalize s.printBlocks (Reading.zeros blocks).content = answered at hfails ⊢
    rcases answered with ⟨_ | e, s'⟩
    · exact absurd rfl hfails
    · rfl
  rw [Handler.printReading, Handler.printReading, run?_printBlocks, run?_printBlocks, hsame]
  cases hanswer : (s.printBlocks (Reading.zeros blocks).content).1 with
  | none => exact absurd hanswer hfails
  | some e => rfl

/-- A handler gets at the output by calls only. -/
lemma called_run (c : Handler) (s : Session σ τ ℓ) :
    Relation.ReflTransGen Called s.out (c.run s).2.out := by
  refine Handler.run_rel (R := fun s s' => Relation.ReflTransGen Called s.out s'.out)
    (fun _ => .refl) .trans ?_ ?_ (fun s => .single (.flush s.out)) ?_ ?_ (fun _ _ => .refl) c s
  · intro s bytes
    rw [(s.printed_print bytes).2]
    exact Sink.called_writeAll s.out bytes
  · intro s bytes
    have hout : (s.offer bytes).2.out = (Sink.write s.out bytes).2 := by
      simp only [offer]
      split <;> rfl
    rw [hout]
    exact .single (.write s.out bytes)
  · intro s path
    rw [readFile, (Unmoved.takeAccess s _).out]
  · intro s path
    rw [appendTo, (Unmoved.takeAccess s _).out]

/-! ### From file to file -/

/-- Printing files opens the first one, prints what is read of it, and goes on with the others
unless one of these fails or never returns. -/
lemma run?_printFiles_cons (path : String) (rest : List String) (s : Session σ τ ℓ) :
    (Handler.printFiles (path :: rest)).run? s =
      match s.readFile (utf8 path) with
      | (none, m) => (none, m)
      | (some (.error e), m) => (some (.error (.cannotOpen path e)), m)
      | (some (.ok reading), m) =>
        match m.printBlocks reading.content, reading.failure with
        | (some e, m'), _ => (some (.error (.cannotRead path e)), m')
        | (none, m'), some e => (some (.error (.cannotRead path e)), m')
        | (none, m'), none => (Handler.printFiles rest).run? m' := by
  rw [Handler.printFiles, Handler.run?]
  rcases s.readFile (utf8 path) with ⟨_ | e | reading, m⟩
  · rfl
  · rfl
  · simp only [Handler.printReading, run?_printBlocks]
    rcases m.printBlocks reading.content with ⟨e | e, m'⟩
    · cases reading.failure <;> rfl
    · rfl

/-- Files that are printed one after the other are printed in two parts. -/
lemma run?_printFiles_append (before after : List String) (s : Session σ τ ℓ) :
    (Handler.printFiles (before ++ after)).run? s =
      match (Handler.printFiles before).run? s with
      | (none, m) => (none, m)
      | (some (.ok _), m) => (Handler.printFiles after).run? m
      | (some (.error f), m) => (some (.error f), m) := by
  induction before generalizing s with
  | nil => rfl
  | cons path rest ih =>
    rw [List.cons_append, run?_printFiles_cons, run?_printFiles_cons]
    rcases s.readFile (utf8 path) with ⟨_ | e | reading, m⟩
    · rfl
    · rfl
    · rcases h : m.printBlocks reading.content with ⟨e | e, m'⟩
      · cases hfailure : reading.failure with
        | none => simpa only [h, hfailure] using ih m'
        | some e => simp only [h, hfailure]
      · simp only [h]

/-! ### Failures to read -/

/-- Some of the files were printed, and the next one was opened: what is read of it, and the session
in which it is to be printed. -/
inductive Opened (s : Session σ τ ℓ) : List String → String → Reading → Session σ τ ℓ → Prop
  | mk {before after : List String} {path : String} {reading : Reading} {opening m : Session σ τ ℓ}
      (printed : (Handler.printFiles before).run? s = (some (.ok .proceed), opening))
      (opened : opening.readFile (utf8 path) = (some (.ok reading), m)) :
      Opened s (before ++ path :: after) path reading m

/-- A file was opened, all that was read of it was written, and then reading it failed. -/
def Unread (s : Session σ τ ℓ) (paths : List String) (path : String) (e : IoError)
    (s' : Session σ τ ℓ) : Prop :=
  ∃ reading m, s.Opened paths path reading m ∧ m.printBlocks reading.content = (none, s') ∧
    reading.failure = some e

/-- A file was opened, and the output failed to take what was read of it. -/
def Unwritten (s : Session σ τ ℓ) (paths : List String) (path : String) (e : IoError)
    (s' : Session σ τ ℓ) : Prop :=
  ∃ reading m, s.Opened paths path reading m ∧ m.printBlocks reading.content = (some e, s')

variable {s m m' s' : Session σ τ ℓ} {paths rest : List String} {path first : String}
  {reading : Reading} {e : IoError}

/-- A file that is opened when those after the first are printed is so when all of them are. -/
lemma Opened.cons {content : Bytes}
    (hread : s.readFile (utf8 first) = (some (.ok ⟨content, none⟩), m))
    (hwritten : m.printBlocks content = (none, m')) {u : Session σ τ ℓ}
    (h : m'.Opened rest path reading u) : s.Opened (first :: rest) path reading u := by
  obtain ⟨printed, opened⟩ := h
  rw [← List.cons_append]
  refine .mk ?_ opened
  rw [run?_printFiles_cons, hread]
  simp only [hwritten, printed]

/-- Printing files ends with a failure to read one of them just if it is opened, after those before
it were printed, and then reading it fails or the output does not take what was read. -/
theorem run_printFiles_eq_cannotRead_iff :
    (Handler.printFiles paths).run s = (.error (.cannotRead path e), s') ↔
      s.Unread paths path e s' ∨ s.Unwritten paths path e s' := by
  rw [Handler.run_eq_error_iff]
  constructor
  · intro h
    induction paths generalizing s with
    | nil => cases h
    | cons first rest ih =>
      rw [run?_printFiles_cons] at h
      rcases hread : s.readFile (utf8 first) with ⟨_ | e' | ⟨content, failure⟩, m⟩
      · rw [hread] at h
        cases h
      · rw [hread] at h
        cases h
      have hnone : (Handler.printFiles []).run? s = (some (.ok .proceed), s) := rfl
      have hfirst : s.Opened ([] ++ first :: rest) first ⟨content, failure⟩ m := .mk hnone hread
      rcases hwritten : m.printBlocks content with ⟨_ | e', m'⟩
      · cases failure with
        | none =>
          simp only [hread, hwritten] at h
          -- The first file was printed, so it is one of the others.
          rcases ih h with ⟨reading, u, hopened, hrest⟩ | ⟨reading, u, hopened, hrest⟩
          · exact Or.inl ⟨reading, u, hopened.cons hread hwritten, hrest⟩
          · exact Or.inr ⟨reading, u, hopened.cons hread hwritten, hrest⟩
        | some e' =>
          simp only [hread, hwritten] at h
          cases h
          exact Or.inl ⟨_, m, hfirst, hwritten, rfl⟩
      · simp only [hread, hwritten] at h
        cases h
        exact Or.inr ⟨_, m, hfirst, hwritten⟩
  · rintro (⟨reading, m, ⟨printed, opened⟩, hwritten, hfailure⟩ |
      ⟨reading, m, ⟨printed, opened⟩, hwritten⟩)
    · rw [run?_printFiles_append, printed]
      simp only [run?_printFiles_cons, opened, hwritten, hfailure]
    · rw [run?_printFiles_append, printed]
      simp only [run?_printFiles_cons, opened, hwritten]

/-- What is read of a file is printed on an output that has been called only. -/
lemma Opened.called (h : s.Opened paths path reading m) :
    Relation.ReflTransGen Called s.out m.out := by
  cases h with
  | @mk before after path reading opening m printed opened =>
    have hprinted := called_run (Handler.printFiles before) s
    have printed := Handler.run_eq_of_run?_eq_some printed
    have hopened : (opening.readFile (utf8 path)).2.out = opening.out :=
      (Unmoved.takeAccess opening _).out
    rw [printed] at hprinted
    rw [opened] at hopened
    rwa [hopened]

/-- Without programs that have a part in it, what is read of a file is what the files say. -/
lemma Opened.openRead (hl : Aloof s.launcher) (h : s.Opened paths path reading m) :
    s.files.openRead (utf8 path) = .ok reading := by
  cases h with
  | @mk before after path reading opening m printed opened =>
    obtain ⟨output, v, hprintout⟩ := s.files.exists_printout before
    have hdelivers := delivers_printFiles hprintout rfl hl
    rw [Handler.run_eq_of_run?_eq_some printed] at hdelivers
    have huntouched : Untouched s opening := by
      rcases hdelivers with ⟨hprints, -⟩ | ⟨⟨_, -, -, -, hprints⟩, -⟩
      · exact hprints.untouched
      · exact hprints.untouched
    rw [readFile_eq (huntouched.launcher ▸ hl), huntouched.files] at opened
    exact Option.some.inj (congrArg Prod.fst opened)

/-- An output that takes everything never fails to take what was read. -/
lemma not_unwritten_of_takesAll (h : TakesAll s.out) : ¬ s.Unwritten paths path e s' := by
  rintro ⟨reading, m, hopened, hwritten⟩
  have hout : TakesAll m.out := fun t ht => h t (hopened.called.trans ht)
  have hnone := printBlocks_of_takesAll hout reading.content
  rw [hwritten] at hnone
  cases hnone

end Session

/-! ### The command -/

/-- A verdict that is no failure to read a file. -/
def Verdict.BlamesNone (v : Verdict) : Prop :=
  ∀ path e, v ≠ .error (.cannotRead path e)

lemma Verdict.blamesNone_proceed : BlamesNone (.ok .proceed) := by
  intro path e h
  cases h

lemma Verdict.blamesNone_output (e : IoError) : BlamesNone (.error (.output e)) := by
  intro path e' h
  cases h

/-- Arguments are refused only for not being texts. -/
lemma ArgVector.blamesNone_of_texts {name : String} {arguments : List Bytes} {f : Failure}
    (h : texts name arguments = .error f) : Verdict.BlamesNone (.error f) := by
  induction arguments with
  | nil => cases h
  | cons argument rest ih =>
    rw [texts] at h
    cases hdecoded : Text.decode? argument with
    | none =>
      rw [hdecoded] at h
      cases h
      intro path e h
      cases h
    | some text =>
      simp only [hdecoded] at h
      cases hrest : texts name rest with
      | error g =>
        simp only [hrest] at h
        cases h
        exact ih hrest
      | ok others =>
        simp only [hrest] at h
        cases h

namespace Builtin

variable {σ τ ℓ : Type} [Sink σ] [Launcher ℓ] {args : ArgVector}

/-- Arguments that amount to no paths are answered with a text, or refused. -/
lemma yields_print_of_actsOn_eq_nil (h : args.actsOn = []) :
    (print.handler args).Yields Verdict.BlamesNone := by
  refine (Handler.Yields.handedOn Verdict.BlamesNone).withPaths .print
    Verdict.blamesNone_proceed Verdict.blamesNone_output ?_ ?_
  · rintro name rest f rfl hrefused
    exact ArgVector.blamesNone_of_texts hrefused
  · intro name rest texts request hargs htexts hread hmanual
    subst hargs
    have hpaths : request.paths = [] := by
      simpa only [ArgVector.actsOn, List.headI, List.tail_cons, htexts, hread, hmanual,
        Bool.false_eq_true, if_false] using h
    rw [hpaths]
    exact Verdict.blamesNone_proceed

/-- `op` says that it cannot read a file just if it has opened the file, after those before it were
printed, and then reading the file failed or the output did not take what was read of it.  The two
are told in the same words.  Where reading failed, without programs that have a part in it, the file
is one that cannot be read to its end; and with an output that takes everything it is always reading
that failed.  But if all files can be read, then either all of them are printed, or the output falls
short and `op` says of one of them that it cannot be read. -/
theorem run_print_eq_cannotRead_iff (args : ArgVector) (s : Session σ τ ℓ) :
    (∀ path e s', print.run args s = (.error (.cannotRead path e), s') ↔
      s.Unread args.actsOn path e s' ∨ s.Unwritten args.actsOn path e s') ∧
    (∀ path e s', s.Unread args.actsOn path e s' → Aloof s.launcher →
      ∃ content, s.files.openRead (utf8 path) = .ok ⟨content, some e⟩) ∧
    (TakesAll s.out → ∀ path e s', ¬ s.Unwritten args.actsOn path e s') ∧
    ∀ contents, args.actsOn ≠ [] → Aloof s.launcher →
      List.Forall₂ s.files.Reads args.actsOn contents →
      let r := print.run args s
      (r.1 = .ok .proceed ∧ r.2.printed = s.printed ++ contents.flatten) ∨
        (∃ accepted, accepted <+: contents.flatten ∧ accepted ≠ contents.flatten ∧
          r.2.printed = s.printed ++ accepted) ∧
        ∃ path ∈ args.actsOn, ∃ e, r.1 = .error (.cannotRead path e) := by
  have hrun (hargs : args.actsOn ≠ []) :
      print.run args s = (Handler.printFiles args.actsOn).run s := by
    rw [run, handler, Handler.withPaths_of_actsOn _ _ hargs]
  refine ⟨fun path e s' => ?_, ?_, fun h _ _ _ => Session.not_unwritten_of_takesAll h, ?_⟩
  · by_cases hargs : args.actsOn = []
    · constructor
      · intro h
        exact absurd (congrArg Prod.fst h) ((yields_print_of_actsOn_eq_nil hargs).run
          Verdict.blamesNone_proceed s path e)
      · rw [hargs, ← Session.run_printFiles_eq_cannotRead_iff]
        intro h
        cases h
    · rw [hrun hargs]
      exact Session.run_printFiles_eq_cannotRead_iff
  · rintro path e s' ⟨⟨content, failure⟩, m, hopened, -, rfl⟩ hl
    exact ⟨content, hopened.openRead hl⟩
  · intro contents hargs hl hreads r
    have hr : r = (Handler.printFiles args.actsOn).run s := hrun hargs
    have hdelivers := Session.delivers_printFiles (.all hreads) rfl hl
    rw [← hr] at hdelivers
    rcases hdelivers with ⟨hprints, hv⟩ | ⟨⟨accepted, hprefix, hne, -, hprints⟩, hfails⟩
    · exact Or.inl ⟨hv, hprints.printed⟩
    · exact Or.inr ⟨⟨accepted, hprefix, hne, hprints.printed⟩, hfails⟩

/-- There is nothing wrong with the file, and the output has room for three of its bytes. -/
theorem run_print_cannotRead_readable :
    let files : FileSystem := ⟨[([utf8 "a"], .file (utf8 "hello\n") 0o644)], [], [], []⟩
    let out : LimitedSink := ⟨some 3, none, none, false, 0, 0, none⟩
    let s := Session.start out LimitedSink.unlimited (⟨[]⟩ : ScriptedLauncher) files .off
    let r := print.run (["op", "a"].map utf8) s
    files.Reads "a" (utf8 "hello\n") ∧
      r.1 = .error (.cannotRead "a" .nothingAccepted) ∧ r.2.printed = utf8 "hel" ∧
      ¬ ∃ content e, s.files.openRead (utf8 "a") = .ok ⟨content, some e⟩ := by
  intro files out s r
  have hreads : files.Reads "a" (utf8 "hello\n") := by
    rw [FileSystem.Reads]
    cbv
  refine ⟨hreads, ?_, ?_, ?_⟩
  · subst r s
    cbv
  · subst r s
    cbv
  · rintro ⟨content, e, hfails⟩
    rw [FileSystem.Reads] at hreads
    cases hreads.symm.trans hfails

end Builtin

end CommandShell
