import CommandShell.Builtin
import CommandShell.Proofs.Executions
import CommandShell.Proofs.Verdicts
import Mathlib

/-!
# Which files are created

Builtin commands change the files in one way only: a file that does not exist yet is created when it
is opened to be appended to.  So file systems only grow (`FileSystem.Grown`): what was there stays
as it is, and what is new is an empty file at a place to which a path led that was opened.  New
files are on no way, so paths lead where they led, unless a new file stands there
(`FileSystem.Grown.remains_locate`).  So a path leads to a free name in the end only if it did so in
the beginning, and growing goes on growing (`FileSystem.Grown.trans`).

Which paths a handler may open to append to them can be read off it (`Handler.AppendsTo`).  Of the
commands of every session only `cr` has any, and only if its arguments amount to that
(`ArgVector.toCreate`).  With a launcher that leaves the files alone (`LeavesFiles`) this makes up
whole runs (`Session.run_standard_grown`).
-/

namespace CommandShell

/-! ### File systems that grow -/

namespace FileSystem

variable {fs fs' fs'' : FileSystem} {P Q : Bytes → Prop}

/-- An entry is added where there is none; elsewhere nothing changes. -/
lemma find?_add (fs : FileSystem) (path : Path) (node : Node) (p : Path) :
    (fs.add path node).find? p = (fs.find? p).or (if p = path then some node else none) := by
  rw [find?, find?, add]
  by_cases hp : p = []
  · rw [if_pos hp, if_pos hp]
    rfl
  · rw [if_neg hp, if_neg hp, List.lookup_append, List.lookup_cons, List.lookup_nil]
    by_cases heq : p = path
    · rw [if_pos heq, beq_iff_eq.mpr heq]
    · rw [if_neg heq, beq_eq_false_iff_ne.mpr heq]

/-- A path leads to a name of which its directory has no entry. -/
def LeadsToNew (fs : FileSystem) (path : Bytes) (p : Path) : Prop :=
  ∃ directory name, fs.locate true path = .ok (.absent directory name) ∧ p = directory ++ [name]

/-- A step into an entry goes where the entry leads, if it may be made at all. -/
lemma follow_name {creating : Bool} {links : Nat} {directory : Path} {n : Name} {rest : List Step}
    (henter : ¬ (!fs.canEnter directory) = true)
    (hslash : ¬ (creating = true ∧ rest ≠ [] ∧ rest.all (· = .slash) = true))
    (hlimit : ¬ Step.nameLimit < n.length) :
    fs.follow creating links directory (.name n :: rest) =
      match fs.find? (directory ++ [n]) with
      | none => if rest = [] then .ok (.absent directory n) else .error .noEntry
      | some .directory => fs.follow creating links (directory ++ [n]) rest
      | some (.link target) =>
        match links with
        | 0 => .error .tooManyLinks
        | left + 1 =>
          fs.follow creating left (origin directory target) (Step.ofPath target ++ rest)
      | some .here =>
        match links with
        | 0 => .error .tooManyLinks
        | left + 1 => fs.follow creating left fs.current rest
      | some node =>
        if rest = [] then .ok (.found (directory ++ [n]) node) else .error .notDirectory := by
  cases links with
  | zero =>
    rw [follow, if_neg henter, if_neg hslash]
    exact if_neg hlimit
  | succ left =>
    rw [follow, if_neg henter, if_neg hslash]
    exact if_neg hlimit

/-- A step into an entry that leads nowhere has to be the last one. -/
lemma follow_other {creating : Bool} {links : Nat} {directory : Path} {n : Name} {rest : List Step}
    {node : Node} (henter : ¬ (!fs.canEnter directory) = true)
    (hslash : ¬ (creating = true ∧ rest ≠ [] ∧ rest.all (· = .slash) = true))
    (hlimit : ¬ Step.nameLimit < n.length) (hdirectory : node ≠ .directory)
    (hlink : ∀ target, node ≠ .link target) (hhere : node ≠ .here)
    (hnode : fs.find? (directory ++ [n]) = some node) :
    fs.follow creating links directory (.name n :: rest) =
      if rest = [] then .ok (.found (directory ++ [n]) node) else .error .notDirectory := by
  rw [follow_name henter hslash hlimit, hnode]
  cases node with
  | directory => exact absurd rfl hdirectory
  | link target => exact absurd rfl (hlink target)
  | here => exact absurd rfl hhere
  | _ => rfl

/-- What a path leads to can be opened to be appended to. -/
def Appendable (fs : FileSystem) : Place → Prop
  | .found p node => node ≠ .directory ∧ node ≠ .terminal ∧ fs.canWrite p node = true
  | .absent directory _ => fs.isDirectory directory = true ∧ fs.canChange directory = true

/-- The files after that was opened. -/
def opened (fs : FileSystem) : Place → FileSystem
  | .found _ _ => fs
  | .absent directory name => fs.add (directory ++ [name]) (.file [] newFileMode)

/-- A path is opened if it leads to something that can be. -/
lemma openAppend_eq_ok_iff {path : Bytes} : fs.openAppend path = .ok fs' ↔
    checkPath path = .ok () ∧ ∃ place, fs.locate true path = .ok place ∧ fs.Appendable place ∧
      fs' = fs.opened place := by
  rw [openAppend]
  cases checkPath path with
  | error e => simp
  | ok _ =>
    cases fs.locate true path with
    | error e => simp
    | ok place =>
      cases place with
      | absent directory name =>
        cases hdirectory : fs.isDirectory directory <;> cases hchange : fs.canChange directory <;>
          simp [Appendable, opened, hdirectory, hchange, eq_comm (a := fs')]
      | found p node =>
        cases hwrite : fs.canWrite p node <;> cases node <;>
          simp [Appendable, opened, hwrite, eq_comm (a := fs')]

/-- The file systems differ in nothing but new empty files, and each of these stands where a path of
a kind leads. -/
structure Grown (P : Bytes → Prop) (fs fs' : FileSystem) : Prop where
  kept : ∀ p node, fs.find? p = some node → fs'.find? p = some node
  created : ∀ p node, fs.find? p = none → fs'.find? p = some node →
    node = .file [] newFileMode ∧ ∃ path, P path ∧ fs.LeadsToNew path p
  current : fs'.current = fs.current
  shared : fs'.shared = fs.shared
  stamps : fs'.stamps = fs.stamps

/-- Where a path leads once new files are there: to the same place, unless a new file stands there.
If it led nowhere, it does so still, for whatever reason. -/
inductive Remains (fs' : FileSystem) : Except Errno Place → Except Errno Place → Prop
  | error {e e' : Errno} : Remains fs' (.error e) (.error e')
  | found {p : Path} {node : Node} : Remains fs' (.ok (.found p node)) (.ok (.found p node))
  | absent {directory : Path} {name : Name} (free : fs'.find? (directory ++ [name]) = none) :
      Remains fs' (.ok (.absent directory name)) (.ok (.absent directory name))
  | created {directory : Path} {name : Name}
      (new : fs'.find? (directory ++ [name]) = some (.file [] newFileMode)) :
      Remains fs' (.ok (.absent directory name))
        (.ok (.found (directory ++ [name]) (.file [] newFileMode)))

namespace Grown

/-- What is no new file was there before. -/
lemma find?_eq (h : Grown P fs fs') {p : Path} {node : Node} (hnode : fs'.find? p = some node)
    (hold : node ≠ .file [] newFileMode) : fs.find? p = some node := by
  cases hp : fs.find? p with
  | none => exact absurd (h.created p node hp hnode).1 hold
  | some node' => rw [← h.kept p node' hp, hnode]

lemma stamp_eq (h : Grown P fs fs') (p : Path) : fs'.stamp p = fs.stamp p := by
  rw [stamp, stamp, h.stamps]

lemma canEnter_eq (h : Grown P fs fs') (directory : Path) :
    fs'.canEnter directory = fs.canEnter directory := by
  rw [canEnter, canEnter, h.stamp_eq]

/-- New files are on no way, so that steps lead where they led. -/
lemma remains_follow (h : Grown P fs fs') (creating : Bool) (links : Nat) (directory : Path)
    (steps : List Step) :
    Remains fs' (fs.follow creating links directory steps)
      (fs'.follow creating links directory steps) := by
  fun_induction fs.follow creating links directory steps with
  | case1 =>
    rw [follow]
    exact .found
  | case2 links directory rest henter ih =>
    rw [follow, if_pos ((h.canEnter_eq _).trans henter)]
    exact ih
  | case3 links directory rest henter =>
    rw [follow, if_neg (h.canEnter_eq _ ▸ henter)]
    exact .error
  | case4 links directory rest ih =>
    rw [follow]
    exact ih
  | case5 links directory rest henter ih =>
    rw [follow, if_pos ((h.canEnter_eq _).trans henter)]
    exact ih
  | case6 links directory rest henter =>
    rw [follow, if_neg (h.canEnter_eq _ ▸ henter)]
    exact .error
  | case7 links directory n rest henter =>
    rw [follow.eq_def]
    simp only [if_pos (h.canEnter_eq _ ▸ henter)]
    exact .error
  | case8 links directory n rest henter hslash =>
    rw [follow.eq_def]
    simp only [if_neg (h.canEnter_eq _ ▸ henter), if_pos hslash]
    exact .error
  | case9 links directory n rest henter hslash hlimit =>
    rw [follow.eq_def]
    simp only [if_neg (h.canEnter_eq _ ▸ henter), if_neg hslash, if_pos hlimit]
    exact .error
  | case10 links directory n henter hlimit hfree hslash =>
    rw [follow_name (h.canEnter_eq _ ▸ henter) hslash hlimit]
    cases hnode : fs'.find? (directory ++ [n]) with
    | none => exact .absent hnode
    | some node =>
      obtain ⟨rfl, -⟩ := h.created _ _ hfree hnode
      exact .created hnode
  | case11 links directory n rest henter hslash hlimit hfree hrest =>
    rw [follow_name (h.canEnter_eq _ ▸ henter) hslash hlimit]
    cases hnode : fs'.find? (directory ++ [n]) with
    | none =>
      simp only [if_neg hrest]
      exact .error
    | some node =>
      obtain ⟨rfl, -⟩ := h.created _ _ hfree hnode
      simp only [if_neg hrest]
      exact .error
  | case12 links directory n rest henter hslash hlimit hnode ih =>
    rw [follow_name (h.canEnter_eq _ ▸ henter) hslash hlimit, h.kept _ _ hnode]
    exact ih
  | case13 directory n rest henter hslash hlimit target hnode =>
    rw [follow_name (h.canEnter_eq _ ▸ henter) hslash hlimit, h.kept _ _ hnode]
    exact .error
  | case14 directory n rest henter hslash hlimit target hnode left ih =>
    rw [follow_name (h.canEnter_eq _ ▸ henter) hslash hlimit, h.kept _ _ hnode]
    exact ih
  | case15 directory n rest henter hslash hlimit hnode =>
    rw [follow_name (h.canEnter_eq _ ▸ henter) hslash hlimit, h.kept _ _ hnode]
    exact .error
  | case16 directory n rest henter hslash hlimit hnode left ih =>
    rw [follow_name (h.canEnter_eq _ ▸ henter) hslash hlimit, h.kept _ _ hnode]
    simp only
    rwa [h.current]
  | case17 links directory n henter hlimit node hdirectory hlink hhere hnode hslash =>
    rw [follow_other (h.canEnter_eq _ ▸ henter) hslash hlimit hdirectory hlink hhere
      (h.kept _ _ hnode)]
    exact .found
  | case18 links directory n rest henter hslash hlimit node hdirectory hlink hhere hnode hrest =>
    rw [follow_other (h.canEnter_eq _ ▸ henter) hslash hlimit hdirectory hlink hhere
      (h.kept _ _ hnode), if_neg hrest]
    exact .error

/-- Paths lead where they led, unless a new file stands there. -/
lemma remains_locate (h : Grown P fs fs') (creating : Bool) (path : Bytes) :
    Remains fs' (fs.locate creating path) (fs'.locate creating path) := by
  rw [locate, locate, h.current]
  split
  · exact .error
  split
  · exact .error
  · exact h.remains_follow _ _ _ _

/-- Where a path leads to no entry, it led to none before. -/
lemma leadsToNew (h : Grown P fs fs') {path : Bytes} {p : Path} (hpath : fs'.LeadsToNew path p) :
    fs.LeadsToNew path p := by
  obtain ⟨directory, name, hlocate, hp⟩ := hpath
  have hremains := h.remains_locate true path
  rw [hlocate] at hremains
  generalize hbefore : fs.locate true path = before at hremains
  cases hremains with
  | absent free => exact ⟨directory, name, hbefore, hp⟩

lemma refl (P : Bytes → Prop) (fs : FileSystem) : Grown P fs fs :=
  ⟨fun _ _ h => h, fun p node hfree hnode => (by rw [hfree] at hnode; cases hnode), rfl, rfl, rfl⟩

lemma trans (h : Grown P fs fs') (h' : Grown P fs' fs'') : Grown P fs fs'' where
  kept p node hnode := h'.kept p node (h.kept p node hnode)
  created p node hfree hnode := by
    cases hbetween : fs'.find? p with
    | some node' =>
      have heq : node' = node := Option.some.inj ((h'.kept p node' hbetween).symm.trans hnode)
      exact heq ▸ h.created p node' hfree hbetween
    | none =>
      obtain ⟨hempty, path, hpath, hleads⟩ := h'.created p node hbetween hnode
      exact ⟨hempty, path, hpath, h.leadsToNew hleads⟩
  current := h'.current.trans h.current
  shared := h'.shared.trans h.shared
  stamps := h'.stamps.trans h.stamps

/-- Opening a file to append to it changes nothing if there is one, and else creates it. -/
lemma of_openAppend {path : Bytes} (hpath : P path) (h : fs.openAppend path = .ok fs') :
    Grown P fs fs' := by
  obtain ⟨-, place, hlocate, -, rfl⟩ := openAppend_eq_ok_iff.mp h
  cases place with
  | found p node => exact refl P fs
  | absent directory name =>
    refine ⟨fun p node hnode => ?_, fun p node hfree hnode => ?_, rfl, rfl, rfl⟩
    · rw [opened, find?_add, hnode, Option.some_or]
    · rw [opened, find?_add, hfree, Option.none_or] at hnode
      split at hnode
      · next heq =>
        cases hnode
        exact ⟨rfl, path, hpath, directory, name, hlocate, heq⟩
      · cases hnode

end Grown

/-- Some files were opened to be appended to, each under a path of a kind. -/
abbrev Appended (P : Bytes → Prop) : FileSystem → FileSystem → Prop :=
  Relation.ReflTransGen fun fs fs' => ∃ path, P path ∧ fs.openAppend path = .ok fs'

/-- Opening files to append to them lets a file system grow. -/
lemma Appended.grown (h : Appended P fs fs') : Grown P fs fs' := by
  induction h with
  | refl => exact .refl P fs
  | tail _ hopen ih =>
    obtain ⟨path, hpath, hopen⟩ := hopen
    exact ih.trans (.of_openAppend hpath hopen)

/-- Without such paths nothing has changed. -/
lemma Appended.eq_of_forall_not (hP : ∀ path, ¬ P path) (h : Appended P fs fs') : fs' = fs := by
  induction h with
  | refl => rfl
  | tail _ hopen _ =>
    obtain ⟨path, hpath, -⟩ := hopen
    exact absurd hpath (hP path)

lemma Appended.mono (hPQ : ∀ path, P path → Q path) (h : Appended P fs fs') : Appended Q fs fs' :=
  Relation.ReflTransGen.mono (fun _ _ ⟨path, hpath, hopen⟩ => ⟨path, hPQ path hpath, hopen⟩) _ _ h

end FileSystem

open FileSystem (Appended Grown)

/-! ### Launchers -/

/-- A launcher that has no effect on the files: programs leave them alone, and opening a file does
at most what the interpreter asks for. -/
structure LeavesFiles (ℓ : Type) [Launcher ℓ] : Prop where
  launch : ∀ (l : ℓ) files args, (Launcher.launch l files args).files = files
  readFile : ∀ (l : ℓ) files path, (Launcher.readFile l files path).files = files
  appendTo : ∀ (l : ℓ) files path, (Launcher.appendTo l files path).files = files ∨
    files.openAppend path = .ok (Launcher.appendTo l files path).files

/-- A launcher with prepared answers has no effect on the files. -/
lemma ScriptedLauncher.leavesFiles : LeavesFiles ScriptedLauncher where
  launch l files args := by
    simp only [Launcher.launch, ScriptedLauncher.launch]
    split <;> rfl
  readFile _ _ _ := rfl
  appendTo l files path := by
    change (AccessReport.appending l files path).files = files ∨
      files.openAppend path = .ok (AccessReport.appending l files path).files
    rw [AccessReport.appending]
    cases files.openAppend path with
    | ok files' => exact Or.inr rfl
    | error e => exact Or.inl rfl

/-- A launcher in a state in which no program has a part in what the interpreter itself does with
files. -/
structure Aloof {ℓ : Type} [Launcher ℓ] (l : ℓ) : Prop where
  readFile : ∀ files path, Launcher.readFile l files path = .reading l files path
  appendTo : ∀ files path, Launcher.appendTo l files path = .appending l files path

/-- The programs of a launcher with prepared answers have no part in anything. -/
lemma ScriptedLauncher.aloof (l : ScriptedLauncher) : Aloof l :=
  ⟨fun _ _ => rfl, fun _ _ => rfl⟩

/-! ### Handlers -/

namespace Handler

/-- Whatever its acts answer, a handler opens files to append to them under paths of a kind only,
and does not change the files otherwise. -/
def AppendsTo (P : Bytes → Prop) : Handler → Prop
  | done _ => True
  | print _ next => ∀ answer, (next answer).AppendsTo P
  | offer _ next => ∀ answer, (next answer).AppendsTo P
  | flush next => ∀ answer, (next answer).AppendsTo P
  | read _ next => ∀ answer, (next answer).AppendsTo P
  | append path next => P path ∧ ∀ answer, (next answer).AppendsTo P
  | change _ _ => False

namespace AppendsTo

variable {P : Bytes → Prop}

lemma done (v : Verdict) : (Handler.done v).AppendsTo P := trivial

/-- The kind of the paths is handed on. -/
lemma handedOn (P : Bytes → Prop) : HandedOn P (AppendsTo P) :=
  ⟨fun _ _ h => h, fun _ _ h => h, fun _ _ hpath h => ⟨hpath, h⟩⟩

/-- Printing files creates none. -/
lemma printFiles (paths : List String) : (Handler.printFiles paths).AppendsTo P :=
  (handedOn P).printFiles (done _) (fun _ _ _ => done _) fun _ _ _ => done _

/-- Creating files opens the paths. -/
lemma createFiles {paths : List String} (hpaths : ∀ path ∈ paths, P (utf8 path)) :
    (Handler.createFiles paths).AppendsTo P :=
  (handedOn P).createFiles (done _) hpaths fun _ _ _ => done _

end AppendsTo

end Handler

namespace ArgVector

/-- The paths that a command is to act on, if that is what its arguments amount to: they are texts,
are not refused, and ask neither for help nor for the manual. -/
def actsOn (args : ArgVector) : List String :=
  match texts (Text.display args.headI) args.tail with
  | .error _ => []
  | .ok arguments =>
    match PathRequest.grammar.read arguments with
    | .run request => if request.manual then [] else request.paths
    | .help => []
    | .refused _ => []

/-- The paths at which a command is to create files: those that `cr` is to act on. -/
def toCreate (args : ArgVector) : List String :=
  if args.command? = some (utf8 "cr") then args.actsOn else []

end ArgVector

/-- A command that takes paths does nothing to files but what it does with the paths that it is to
act on. -/
lemma Handler.AppendsTo.withPaths {P : Bytes → Prop} (m : Manual) {act : List String → Handler}
    {args : ArgVector} (hact : (act args.actsOn).AppendsTo P) :
    (Handler.withPaths m act args).AppendsTo P := by
  refine (handedOn P).withPaths m (done _) (fun _ => done _) (fun _ _ _ _ _ => done _) ?_
  intro name rest texts request hargs htexts hread hmanual
  subst hargs
  simpa only [ArgVector.actsOn, List.headI, List.tail_cons, htexts, hread, hmanual,
    Bool.false_eq_true, if_false] using hact

/-- A command that is to act on some paths does what it does with these. -/
lemma Handler.withPaths_of_actsOn (m : Manual) (act : List String → Handler) {args : ArgVector}
    (h : args.actsOn ≠ []) : Handler.withPaths m act args = act args.actsOn := by
  cases args with
  | nil => exact absurd rfl h
  | cons name rest =>
    simp only [ArgVector.actsOn, List.headI, List.tail_cons] at h ⊢
    rw [Handler.withPaths]
    cases htexts : ArgVector.texts (Text.display name) rest with
    | error f => simp [htexts] at h
    | ok texts =>
      simp only [htexts] at h ⊢
      cases hread : PathRequest.grammar.read texts with
      | help => simp [hread] at h
      | refused r => simp [hread] at h
      | run request =>
        simp only [hread] at h ⊢
        split at h
        · exact absurd rfl h
        · next hmanual => simp only [if_neg hmanual, if_neg h]

/-- Of the commands of every session only `cr` creates files, those that it is to create. -/
lemma Table.appendsTo_of_builtin?_standard {name : Bytes} {b : Builtin} {args : ArgVector}
    (hname : args.command? = some name) (h : standard.builtin? name = some b) :
    (b.handler args).AppendsTo fun path => ∃ text ∈ args.toCreate, path = utf8 text := by
  obtain ⟨entry, hfind, rfl⟩ := Option.map_eq_some_iff.mp h
  have hentry : utf8 entry.1 = name := by simpa using List.find?_some hfind
  have hmem : entry ∈ standard := List.mem_of_find?_eq_some hfind
  simp only [standard, List.mem_cons, List.not_mem_nil, or_false] at hmem
  rcases hmem with rfl | rfl | rfl | rfl
  · refine .withPaths .create (.createFiles fun path hpath => ⟨path, ?_, rfl⟩)
    rwa [ArgVector.toCreate, if_pos (hname.trans (congrArg some hentry.symm))]
  · exact (Handler.AppendsTo.handedOn _).printTexts (.done _) (fun _ => .done _) _
  · exact .done _
  · exact .withPaths .print (.printFiles _)

/-! ### Sessions -/

namespace Session

section

variable {σ τ ℓ : Type} [Sink σ] [Sink τ] {P : Bytes → Prop}

omit [Sink τ] in
/-- Around commands nothing is done to the files. -/
lemma keptAround_files {R : FileSystem → FileSystem → Prop} (refl : ∀ fs, R fs fs)
    (trans : ∀ {fs fs' fs''}, R fs fs' → R fs' fs'' → R fs fs'') :
    KeptAround fun s s' : Session σ τ ℓ => R s.files s'.files where
  refl _ := refl _
  trans := trans
  print s bytes := (Untouched.print s bytes).files.symm ▸ refl _
  flush _ := refl _
  asked _ := refl _
  note s r _ := (Unmoved.note s r).files.symm ▸ refl _

variable [Launcher ℓ] (hl : LeavesFiles ℓ)
include hl

omit [Sink τ] in
/-- A handler opens files as it says. -/
lemma appended_handler {c : Handler} (hc : c.AppendsTo P) (s : Session σ τ ℓ) :
    Appended P s.files (c.run s).2.files := by
  induction c generalizing s with
  | done v => exact .refl
  | print bytes next ih =>
    have hrest := ih _ (hc (s.print bytes).1) (s.print bytes).2
    rwa [(Untouched.print s bytes).files] at hrest
  | offer bytes next ih =>
    have hrest := ih _ (hc (s.offer bytes).1) (s.offer bytes).2
    rwa [(Untouched.offer s bytes).files] at hrest
  | flush next ih => exact ih _ (hc _) s.flush.2
  | read path next ih =>
    have hfiles : (s.readFile path).2.files = s.files :=
      (Unmoved.written _ _).files.trans (hl.readFile s.launcher s.files path)
    rw [Handler.run_read, ← hfiles]
    rcases s.readFile path with ⟨_ | answer, s'⟩
    · exact .refl
    · exact ih answer (hc answer) s'
  | append path next ih =>
    have hfiles : Appended P s.files (s.appendTo path).2.files := by
      have hopened : (s.appendTo path).2.files =
          (Launcher.appendTo s.launcher s.files path).files := (Unmoved.written _ _).files
      rw [hopened]
      rcases hl.appendTo s.launcher s.files path with hsame | hopen
      · exact hsame.symm ▸ .refl
      · exact .single ⟨path, hc.1, hopen⟩
    rw [Handler.run_append]
    generalize s.appendTo path = answered at hfiles ⊢
    rcases answered with ⟨_ | answer, s'⟩
    · exact hfiles
    · exact hfiles.trans (ih answer (hc.2 answer) s')
  | change f next ih => exact hc.elim

omit hl in
/-- A builtin command does to the files what its handler does. -/
lemma files_runBuiltin {β : Type} [HasHandler β] (s : Session σ τ ℓ) (b : β) (args : ArgVector) :
    (s.runBuiltin b args).2.files = ((HasHandler.handler b args).run s).2.files := by
  rw [runBuiltin]
  split
  · next heq => rw [heq]
  · next heq => rw [heq, (Untouched.report _ _).files]

/-- A command opens the files that it is to create, and no others. -/
lemma appended_execute (args : ArgVector) (s : Session σ τ ℓ) :
    Appended (fun path => ∃ text ∈ args.toCreate, path = utf8 text) s.files
      (s.execute Table.standard args).2.files := by
  rw [execute]
  cases hname : args.command? with
  | none => exact .refl
  | some name =>
    cases hb : Table.standard.builtin? name with
    | none =>
      simp only [hb]
      rw [(Untouched.runProgram s name args).files, hl.launch]
    | some b =>
      have hhandler := appended_handler hl (Table.appendsTo_of_builtin?_standard hname hb)
        (s.note (.builtin (Text.display name)))
      rw [(Unmoved.note s _).files] at hhandler
      simp only [hb]
      rwa [files_runBuiltin]

/-- A run of the commands of every session, with a launcher that has no effect on the files, leaves
all files as they are: each entry stays what it was, and so do the current directory, the stamps and
what belongs together.  An entry that is new is an empty file at a place to which a path led in the
beginning, through links that were there, and `cr` was to create a file at that path in one of the
commands that were executed.  A command that is to create no files changes nothing: this is so of
all other commands, and of `cr` if its arguments are refused, or are no texts, or ask for help or
for the manual, or name no path. -/
theorem run_standard_grown (prompting : Bool) (input : Input) (s : Session σ τ ℓ) :
    let files := (s.run Table.standard prompting input).session.files
    (∀ p node, s.files.find? p = some node → files.find? p = some node) ∧
    (∀ p node, s.files.find? p = none → files.find? p = some node →
      node = .file [] newFileMode ∧
        ∃ x ∈ s.executions Table.standard prompting input, ∃ path ∈ x.args.toCreate,
          s.files.LeadsToNew (utf8 path) p) ∧
    files.current = s.files.current ∧ files.shared = s.files.shared ∧
    files.stamps = s.files.stamps ∧
    ∀ (args : ArgVector) (t : Session σ τ ℓ), args.toCreate = [] →
      (t.execute Table.standard args).2.files = t.files := by
  intro files
  let named (path : Bytes) : Prop := ∃ x ∈ s.executions Table.standard prompting input,
    ∃ text ∈ x.args.toCreate, path = utf8 text
  have haround : KeptAround fun s s' : Session σ τ ℓ => Appended named s.files s'.files :=
    keptAround_files (fun _ => .refl) .trans
  have hrun : Grown named s.files files := by
    refine FileSystem.Appended.grown (haround.run fun x hx => ?_)
    obtain ⟨i, u, -, hexecution⟩ := mem_executions_iff.mp hx
    obtain ⟨-, -, -, -, executed⟩ := execution?_eq_some_iff.mp hexecution
    have happended := appended_execute hl x.args x.before
    rw [executed] at happended
    exact happended.mono fun path hpath => ⟨x, hx, hpath⟩
  refine ⟨hrun.kept, fun p node hfree hnode => ?_, hrun.current, hrun.shared, hrun.stamps, ?_⟩
  · obtain ⟨hempty, _, ⟨x, hx, path, hpath, rfl⟩, hleads⟩ := hrun.created p node hfree hnode
    exact ⟨hempty, x, hx, path, hpath, hleads⟩
  · intro args t hargs
    refine (appended_execute hl args t).eq_of_forall_not fun path hpath => ?_
    rw [hargs] at hpath
    obtain ⟨text, htext, -⟩ := hpath
    exact absurd htext List.not_mem_nil

end

/-- A file is created where a link leads, another one is there already and keeps its content, and a
third one cannot be created, so that the fourth one is not. -/
theorem run_standard_grown_link :
    let old : Node := .file (utf8 "text") 0o600
    let files : FileSystem :=
      ⟨[([utf8 "link"], .link (utf8 "d/new")), ([utf8 "d"], .directory), ([utf8 "old"], old)],
        [], [], []⟩
    let new : Path := [utf8 "d", utf8 "new"]
    let s := start LimitedSink.unlimited LimitedSink.unlimited (⟨[]⟩ : ScriptedLauncher) files .off
    let input := Input.ofBytes (utf8 "cr link old e/f g\n")
    let files' := (s.run Table.standard false input).session.files
    LeavesFiles ScriptedLauncher ∧ files'.entries = files.entries ++ [(new, .file [] newFileMode)] ∧
      files'.find? [utf8 "old"] = some old ∧
      ∃ x ∈ s.executions Table.standard false input, ∃ path ∈ x.args.toCreate,
        files.LeadsToNew (utf8 path) new := by
  intro old files new s input files'
  have hentries : files'.entries = files.entries ++ [(new, .file [] newFileMode)] := by
    subst old files new s input files'
    cbv
  have hgrown := run_standard_grown ScriptedLauncher.leavesFiles false input s
  have hold : files'.find? [utf8 "old"] = some old := hgrown.1 _ _ (by decide)
  have hnew : files'.find? new = some (.file [] newFileMode) := by
    rw [FileSystem.find?, hentries]
    decide
  exact ⟨ScriptedLauncher.leavesFiles, hentries, hold, (hgrown.2.1 new _ (by decide) hnew).2⟩

end Session

end CommandShell
