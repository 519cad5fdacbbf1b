import CommandShell.Proofs.Creations
import Mathlib

/-!
# Creating files

Files are created in order, each of them in what the ones before have left
(`FileSystem.createAll`).  What that comes to can be said of the files as they were in the
beginning.  Where a path leads is changed only by a new file that stands there
(`FileSystem.Grown.remains_locate`), and a new file can be opened again, so each path can be opened
in its turn if and only if it could be at first (`FileSystem.Grown.openable_iff`).  New files are
those that the paths led to at first, each of them once (`FileSystem.exists_gains`).

Nothing of that depends on the order of the paths, or on how often they are named
(`FileSystem.same_createAll`), and all paths lead to a file in the end, so that nothing is left to
be created (`FileSystem.createAll_again`).
-/

namespace CommandShell

namespace FileSystem

variable {fs fs' fs₁ : FileSystem} {P : Bytes → Prop} {path : Bytes} {place : Place}

/-! ### Opening one file -/

/-- A path can be opened to be appended to. -/
def Openable (fs : FileSystem) (path : Bytes) : Prop :=
  ∃ fs', fs.openAppend path = .ok fs'

/-- What can be opened is what a path leads to, before anything is opened. -/
lemma openable_iff : fs.Openable path ↔
    checkPath path = .ok () ∧ ∃ place, fs.locate true path = .ok place ∧ fs.Appendable place := by
  simp only [Openable, openAppend_eq_ok_iff]
  constructor
  · rintro ⟨_, hpath, place, hlocate, happend, -⟩
    exact ⟨hpath, place, hlocate, happend⟩
  · rintro ⟨hpath, place, hlocate, happend⟩
    exact ⟨_, hpath, place, hlocate, happend, rfl⟩

/-- Opening a file changes nothing if and only if there is one. -/
lemma openAppend_eq_self_iff : fs.openAppend path = .ok fs ↔
    checkPath path = .ok () ∧ ∃ p node, fs.locate true path = .ok (.found p node) ∧
      fs.Appendable (.found p node) := by
  rw [openAppend_eq_ok_iff]
  constructor
  · rintro ⟨hpath, place, hlocate, happend, hself⟩
    cases place with
    | found p node => exact ⟨hpath, p, node, hlocate, happend⟩
    | absent directory name =>
      have hlength := congrArg (List.length ∘ entries) hself
      simp [opened, add] at hlength
  · rintro ⟨hpath, p, node, hlocate, happend⟩
    exact ⟨hpath, _, hlocate, happend, rfl⟩

/-! ### Paths after files were created -/

namespace Grown

variable (h : Grown P fs fs')
include h

/-- New files make no difference to what can be opened elsewhere. -/
lemma appendable_iff : fs'.Appendable place ↔ fs.Appendable place := by
  cases place with
  | found p node => cases node <;> simp only [Appendable, canWrite, h.stamp_eq]
  | absent directory name =>
    have hdirectory : fs'.isDirectory directory = true ↔ fs.isDirectory directory = true := by
      simp only [isDirectory, decide_eq_true_eq]
      exact ⟨fun hnode => h.find?_eq hnode Node.noConfusion, h.kept _ _⟩
    simp only [Appendable, hdirectory, canChange, h.stamp_eq]

end Grown

section

variable {directory : Path} {name : Name} {p : Path}

/-- A path that leads to no entry leads to a free name. -/
lemma find?_of_locate_eq_absent {creating : Bool}
    (h : fs.locate creating path = .ok (.absent directory name)) :
    fs.find? (directory ++ [name]) = none := by
  have hremains := (Grown.refl (fun _ => False) fs).remains_locate creating path
  rw [h] at hremains
  cases hremains with
  | absent free => exact free

lemma leadsToNew_iff (h : fs.locate true path = .ok (.absent directory name)) :
    fs.LeadsToNew path p ↔ p = directory ++ [name] := by
  constructor
  · rintro ⟨d, n, hlocate, rfl⟩
    rw [h] at hlocate
    cases hlocate
    rfl
  · rintro rfl
    exact ⟨directory, name, h, rfl⟩

lemma not_leadsToNew {node : Node} {q : Path} (h : fs.locate true path = .ok (.found q node)) :
    ¬ fs.LeadsToNew path p := by
  rintro ⟨d, n, hlocate, -⟩
  rw [h] at hlocate
  cases hlocate

/-- A new file can be opened again. -/
lemma appendable_new : fs.Appendable (.found p (.file [] newFileMode)) :=
  ⟨Node.noConfusion, Node.noConfusion, rfl⟩

end

/-- What can be opened could be opened before files were created, and it can be opened still. -/
lemma Grown.openable_iff (h : Grown fs.Openable fs fs') : fs'.Openable path ↔ fs.Openable path := by
  rw [FileSystem.openable_iff, FileSystem.openable_iff]
  refine and_congr_right fun _ => ?_
  have hremains := h.remains_locate true path
  generalize fs'.locate true path = after at hremains ⊢
  generalize hbefore : fs.locate true path = before at hremains ⊢
  cases hremains with
  | error => simp
  | found => simp only [Except.ok.injEq, exists_eq_left', h.appendable_iff]
  | absent free => simp only [Except.ok.injEq, exists_eq_left', h.appendable_iff]
  | created new =>
    simp only [Except.ok.injEq, exists_eq_left', appendable_new, true_iff]
    -- The file was created by opening a path that leads to the same place.
    obtain ⟨-, other, hother, hleads⟩ := h.created _ _ (find?_of_locate_eq_absent hbefore) new
    obtain ⟨-, place, hlocate, happend⟩ := FileSystem.openable_iff.mp hother
    obtain ⟨d, n, hlocate', heq⟩ := hleads
    obtain ⟨rfl, hname⟩ := List.append_inj' heq rfl
    obtain rfl := List.singleton_inj.mp hname
    rw [hlocate] at hlocate'
    cases hlocate'
    exact happend

/-! ### Opening files in order -/

/-- The files after some paths were opened to be appended to, one after the other. -/
def createAll (fs : FileSystem) (paths : List String) : Except IoError FileSystem :=
  paths.foldlM (fun fs path => fs.openAppend (utf8 path)) fs

section

variable {paths paths' before after : List String} {path : String}

lemma createAll_append_eq_ok_iff : fs.createAll (before ++ after) = .ok fs' ↔
    ∃ fs₁, fs.createAll before = .ok fs₁ ∧ fs₁.createAll after = .ok fs' := by
  rw [createAll, List.foldlM_append, createAll]
  cases before.foldlM (fun fs path => fs.openAppend (utf8 path)) fs <;>
    simp [createAll, bind, Except.bind]

lemma createAll_concat_eq_ok_iff : fs.createAll (paths ++ [path]) = .ok fs' ↔
    ∃ fs₁, fs.createAll paths = .ok fs₁ ∧ fs₁.openAppend (utf8 path) = .ok fs' := by
  rw [createAll_append_eq_ok_iff]
  simp [createAll]

/-- Creating files lets a file system grow by what can be opened in it from the beginning. -/
lemma grown_createAll (h : fs.createAll paths = .ok fs') : Grown fs.Openable fs fs' := by
  induction paths using List.reverseRecOn generalizing fs' with
  | nil =>
    cases h
    exact .refl _ fs
  | append_singleton paths path ih =>
    obtain ⟨fs₁, h, hopen⟩ := createAll_concat_eq_ok_iff.mp h
    have hgrown := ih h
    exact hgrown.trans (.of_openAppend (hgrown.openable_iff.mp ⟨fs', hopen⟩) hopen)

/-- Files can be created one after the other if and only if each of them can be in the beginning. -/
theorem exists_createAll_iff :
    (∃ fs', fs.createAll paths = .ok fs') ↔ ∀ path ∈ paths, fs.Openable (utf8 path) := by
  induction paths using List.reverseRecOn with
  | nil => exact ⟨fun _ => by simp, fun _ => ⟨fs, rfl⟩⟩
  | append_singleton paths path ih =>
    simp only [createAll_concat_eq_ok_iff, List.forall_mem_append, List.forall_mem_singleton, ← ih]
    constructor
    · rintro ⟨fs', fs₁, h, hopen⟩
      exact ⟨⟨fs₁, h⟩, (grown_createAll h).openable_iff.mp ⟨fs', hopen⟩⟩
    · rintro ⟨⟨fs₁, h⟩, hopen⟩
      obtain ⟨fs', hopen⟩ := (grown_createAll h).openable_iff.mpr hopen
      exact ⟨fs', fs₁, h, hopen⟩

/-- Either all files are created, or there is a first path that cannot be opened. -/
lemma createAll_cases (fs : FileSystem) (paths : List String) :
    (∃ fs', fs.createAll paths = .ok fs') ∨
      ∃ before path after fs₁ e, paths = before ++ path :: after ∧
        fs.createAll before = .ok fs₁ ∧ fs₁.openAppend (utf8 path) = .error e := by
  induction paths using List.reverseRecOn with
  | nil => exact Or.inl ⟨fs, rfl⟩
  | append_singleton paths path ih =>
    rcases ih with ⟨fs₁, h⟩ | ⟨before, first, after, fs₁, e, rfl, h, hopen⟩
    · cases hopen : fs₁.openAppend (utf8 path) with
      | ok fs' => exact Or.inl ⟨fs', createAll_concat_eq_ok_iff.mpr ⟨fs₁, h, hopen⟩⟩
      | error e => exact Or.inr ⟨paths, path, [], fs₁, e, rfl, h, hopen⟩
    · exact Or.inr ⟨before, first, after ++ [path], fs₁, e, by simp, h, hopen⟩

/-! ### What is new -/

/-- The files have gained new ones at some paths: empty files, one wherever a written path led to a
name that was free, and nothing else has changed. -/
structure Gains (fs : FileSystem) (paths : List String) (news : List Path) (fs' : FileSystem) :
    Prop where
  eq : fs' = { fs with entries := fs.entries ++ news.map (·, .file [] newFileMode) }
  nodup : news.Nodup
  free : ∀ p ∈ news, fs.find? p = none
  mem_iff : ∀ p, p ∈ news ↔ ∃ path ∈ paths, fs.LeadsToNew (utf8 path) p

namespace Gains

variable {news news' : List Path} (h : Gains fs paths news fs')
include h

/-- What is at a path is what was there, or a new file. -/
lemma find?_eq (p : Path) :
    fs'.find? p = (fs.find? p).or (if p ∈ news then some (.file [] newFileMode) else none) := by
  have hnews (l : List Path) : (l.map fun p => (p, Node.file [] newFileMode)).lookup p =
      if p ∈ l then some (.file [] newFileMode) else none := by
    induction l with
    | nil => rfl
    | cons q l ih =>
      rw [List.map_cons, List.lookup_cons, ih]
      by_cases hp : p = q
      · simp [hp]
      · simp [hp, beq_eq_false_iff_ne.mpr hp]
  rw [h.eq, find?, find?]
  by_cases hp : p = []
  · rw [if_pos hp, if_pos hp, Option.some_or]
  · rw [if_neg hp, if_neg hp, List.lookup_append, hnews]

lemma find?_of_mem {p : Path} (hp : p ∈ news) : fs'.find? p = some (.file [] newFileMode) := by
  rw [h.find?_eq, h.free p hp, if_pos hp, Option.none_or]

lemma mem_of_find? {p : Path} {node : Node} (hfree : fs.find? p = none)
    (hnode : fs'.find? p = some node) : p ∈ news := by
  by_contra hp
  rw [h.find?_eq, hfree, if_neg hp] at hnode
  cases hnode

end Gains

/-- Creating files gains what their paths led to in the beginning. -/
theorem exists_gains (h : fs.createAll paths = .ok fs') : ∃ news, Gains fs paths news fs' := by
  induction paths using List.reverseRecOn generalizing fs' with
  | nil =>
    cases h
    exact ⟨[], by simp, List.nodup_nil, by simp, by simp⟩
  | append_singleton paths path ih =>
    obtain ⟨fs₁, hpaths, hopen⟩ := createAll_concat_eq_ok_iff.mp h
    obtain ⟨news, hgains⟩ := ih hpaths
    obtain ⟨-, place, hlocate, -, rfl⟩ := openAppend_eq_ok_iff.mp hopen
    have hremains := (grown_createAll hpaths).remains_locate true (utf8 path)
    have hmem (p : Path) : (∃ path' ∈ paths ++ [path], fs.LeadsToNew (utf8 path') p) ↔
        p ∈ news ∨ fs.LeadsToNew (utf8 path) p := by
      rw [hgains.mem_iff]
      simp [or_and_right, exists_or]
    rw [hlocate] at hremains
    generalize hbefore : fs.locate true (utf8 path) = before at hremains
    cases hremains with
    | found =>
      refine ⟨news, hgains.eq, hgains.nodup, hgains.free, fun p => ?_⟩
      rw [hmem, or_iff_left (not_leadsToNew hbefore)]
    | created new =>
      have hnew := hgains.mem_of_find? (find?_of_locate_eq_absent hbefore) new
      refine ⟨news, hgains.eq, hgains.nodup, hgains.free, fun p => ?_⟩
      rw [hmem, leadsToNew_iff hbefore, or_iff_left_of_imp]
      rintro rfl
      exact hnew
    | @absent directory name free =>
      have hfree := find?_of_locate_eq_absent hbefore
      refine ⟨news ++ [directory ++ [name]], ?_, ?_, ?_, fun p => ?_⟩
      · rw [opened, add, hgains.eq]
        simp
      · refine hgains.nodup.append (List.nodup_singleton _) ?_
        rw [List.disjoint_singleton]
        intro hmem
        rw [hgains.find?_of_mem hmem] at free
        cases free
      · simpa [or_imp, forall_and] using ⟨hgains.free, hfree⟩
      · rw [hmem, leadsToNew_iff hbefore, List.mem_append, List.mem_singleton]

/-- Each file that was created is there, and opening it again changes nothing. -/
theorem openAppend_of_createAll (h : fs.createAll paths = .ok fs') (hpath : path ∈ paths) :
    fs'.openAppend (utf8 path) = .ok fs' := by
  have hgrown := grown_createAll h
  obtain ⟨news, hgains⟩ := exists_gains h
  have hopenable := exists_createAll_iff.mp ⟨fs', h⟩ path hpath
  obtain ⟨hcheck, place, hlocate, happend⟩ := openable_iff.mp hopenable
  rw [openAppend_eq_self_iff]
  refine ⟨hcheck, ?_⟩
  have hremains := hgrown.remains_locate true (utf8 path)
  rw [hlocate] at hremains
  generalize fs'.locate true (utf8 path) = after at hremains ⊢
  cases hremains with
  | found => exact ⟨_, _, rfl, hgrown.appendable_iff.mpr happend⟩
  | created new => exact ⟨_, _, rfl, appendable_new⟩
  | absent free =>
    have hnew := (hgains.mem_iff _).mpr ⟨path, hpath, (leadsToNew_iff hlocate).mpr rfl⟩
    rw [hgains.find?_of_mem hnew] at free
    cases free

/-- Creating the files again changes nothing. -/
theorem createAll_again (h : fs.createAll paths = .ok fs') : fs'.createAll paths = .ok fs' := by
  have hall (l : List String) (hl : l ⊆ paths) : fs'.createAll l = .ok fs' := by
    induction l using List.reverseRecOn with
    | nil => rfl
    | append_singleton l path ih =>
      obtain ⟨hl, hpath⟩ := List.append_subset.mp hl
      have hopen := openAppend_of_createAll h (hpath List.mem_cons_self)
      exact createAll_concat_eq_ok_iff.mpr ⟨fs', ih hl, hopen⟩
  exact hall paths (List.Subset.refl paths)

/-- File systems with the same entries, in whatever order they were made. -/
structure Same (fs fs' : FileSystem) : Prop where
  find?_eq : ∀ p, fs.find? p = fs'.find? p
  entries : fs.entries.Perm fs'.entries
  current : fs.current = fs'.current
  shared : fs.shared = fs'.shared
  stamps : fs.stamps = fs'.stamps

/-- The order in which files are created makes no difference, and neither does creating them twice.
-/
theorem same_createAll {fs₂ : FileSystem} (h : fs.createAll paths = .ok fs₁)
    (h' : fs.createAll paths' = .ok fs₂) (hpaths : ∀ path, path ∈ paths ↔ path ∈ paths') :
    Same fs₁ fs₂ := by
  obtain ⟨news, hgains⟩ := exists_gains h
  obtain ⟨news', hgains'⟩ := exists_gains h'
  have hmem (p : Path) : p ∈ news ↔ p ∈ news' := by
    simp only [hgains.mem_iff, hgains'.mem_iff, hpaths]
  have hperm : news.Perm news' := (List.perm_ext_iff_of_nodup hgains.nodup hgains'.nodup).mpr hmem
  refine ⟨fun p => ?_, ?_, ?_, ?_, ?_⟩
  · rw [hgains.find?_eq, hgains'.find?_eq]
    simp only [hmem]
  · rw [hgains.eq, hgains'.eq]
    exact (hperm.map _).append_left _
  all_goals rw [hgains.eq, hgains'.eq]

end

end FileSystem

open FileSystem (createAll_concat_eq_ok_iff)

/-! ### The command -/

namespace Session

variable {σ τ ℓ : Type} [Launcher ℓ] {s : Session σ τ ℓ}

/-- A file is opened, and nothing else happens. -/
lemma appendTo_of_ok (hl : Aloof s.launcher) {path : Bytes} {files : FileSystem}
    (h : s.files.openAppend path = .ok files) :
    s.appendTo path = (some (.ok ()), { s with files }) := by
  rw [appendTo, hl.appendTo, AccessReport.appending, h]
  rfl

/-- A file is not opened, and nothing happens. -/
lemma appendTo_of_error (hl : Aloof s.launcher) {path : Bytes} {e : IoError}
    (h : s.files.openAppend path = .error e) : s.appendTo path = (some (.error e), s) := by
  rw [appendTo, hl.appendTo, AccessReport.appending, h]
  rfl

variable [Sink σ]

/-- Files are created in order, and the rest of the paths is looked at after that. -/
lemma run_createFiles_append (hl : Aloof s.launcher) {before : List String} {files : FileSystem}
    (h : s.files.createAll before = .ok files) (rest : List String) :
    (Handler.createFiles (before ++ rest)).run s =
      (Handler.createFiles rest).run { s with files } := by
  induction before using List.reverseRecOn generalizing files rest with
  | nil =>
    cases h
    rfl
  | append_singleton before path ih =>
    obtain ⟨files₁, hbefore, hopen⟩ := createAll_concat_eq_ok_iff.mp h
    have hstep := appendTo_of_ok (s := { s with files := files₁ }) hl hopen
    rw [List.append_assoc, List.singleton_append, ih hbefore, Handler.createFiles,
      Handler.run_append, hstep]

end Session

namespace Builtin

variable {σ τ ℓ : Type} [Sink σ] [Launcher ℓ] {s : Session σ τ ℓ} (hl : Aloof s.launcher)
  {args : ArgVector}
include hl

/-- The command proceeds if all files can be created one after the other. -/
lemma run_create_of_ok (hargs : args.actsOn ≠ []) {files : FileSystem}
    (h : s.files.createAll args.actsOn = .ok files) :
    create.run args s = (.ok .proceed, { s with files }) := by
  have hrun := Session.run_createFiles_append hl h []
  rw [List.append_nil] at hrun
  rw [run, handler, Handler.withPaths_of_actsOn _ _ hargs, hrun]
  rfl

/-- The command gives up at the first path that cannot be opened. -/
lemma run_create_of_error {before after : List String} {path : String} {files : FileSystem}
    {e : IoError} (hpaths : args.actsOn = before ++ path :: after)
    (h : s.files.createAll before = .ok files) (hopen : files.openAppend (utf8 path) = .error e) :
    create.run args s = (.error (.cannotCreate path e), { s with files }) := by
  have hargs : args.actsOn ≠ [] := by simp [hpaths]
  have hstep := Session.appendTo_of_error (s := { s with files }) hl hopen
  rw [run, handler, Handler.withPaths_of_actsOn _ _ hargs, hpaths,
    Session.run_createFiles_append hl h, Handler.createFiles, Handler.run_append, hstep]
  rfl

/-- Without programs that have a part in it, `cr` proceeds if and only if each of its paths can be
opened to be appended to after those before it were; and that is so if and only if each of them can
be in the beginning.  Then there is a file at each path: an empty one at each place to which a path
led and where there was none, and nothing else has changed, neither the other files nor the output
nor what the session keeps besides.  To do the same again changes nothing, and arguments that name
the same paths, in any order and however often, come to the same files.  Otherwise `cr` fails for
the first path that cannot be opened, and leaves the files that the paths before it have led to. -/
theorem run_create_eq_createAll (hargs : args.actsOn ≠ []) :
    let paths := args.actsOn
    let r := create.run args s
    (r.1 = .ok .proceed ↔ ∃ files, s.files.createAll paths = .ok files) ∧
    (r.1 = .ok .proceed ↔ ∀ path ∈ paths, s.files.Openable (utf8 path)) ∧
    (∀ files, s.files.createAll paths = .ok files →
      r = (.ok .proceed, { s with files }) ∧
      (∃ news, s.files.Gains paths news files) ∧
      (∀ path ∈ paths, ∃ p node, files.locate true (utf8 path) = .ok (.found p node) ∧
        node ≠ .directory) ∧
      create.run args r.2 = r ∧
      ∀ args' : ArgVector, (∀ path, path ∈ paths ↔ path ∈ args'.actsOn) →
        ∃ files', create.run args' s = (.ok .proceed, { s with files := files' }) ∧
          files.Same files') ∧
    ∀ before path after files e, paths = before ++ path :: after →
      s.files.createAll before = .ok files → files.openAppend (utf8 path) = .error e →
      r = (.error (.cannotCreate path e), { s with files }) ∧
        (Failure.cannotCreate path e).headline = "cr: cannot create " ++ path := by
  intro paths r
  have hproceeds : r.1 = .ok .proceed ↔ ∃ files, s.files.createAll paths = .ok files := by
    constructor
    · intro hr
      refine (FileSystem.createAll_cases s.files paths).resolve_right ?_
      rintro ⟨before, path, after, files, e, hpaths, h, hopen⟩
      have hrun : r = _ := run_create_of_error hl hpaths h hopen
      rw [hrun] at hr
      cases hr
    · rintro ⟨files, h⟩
      have hrun : r = _ := run_create_of_ok hl hargs h
      rw [hrun]
  refine ⟨hproceeds, hproceeds.trans FileSystem.exists_createAll_iff, fun files h => ?_, ?_⟩
  · have hr : r = (.ok .proceed, { s with files }) := run_create_of_ok hl hargs h
    refine ⟨hr, FileSystem.exists_gains h, fun path hpath => ?_, ?_, fun args' hsame => ?_⟩
    · have hself := FileSystem.openAppend_of_createAll h hpath
      obtain ⟨-, p, node, hlocate, hnode, -⟩ := FileSystem.openAppend_eq_self_iff.mp hself
      exact ⟨p, node, hlocate, hnode⟩
    · rw [hr]
      exact run_create_of_ok (s := { s with files }) hl hargs (FileSystem.createAll_again h)
    · have hopen := FileSystem.exists_createAll_iff.mp ⟨files, h⟩
      obtain ⟨files', h'⟩ := FileSystem.exists_createAll_iff.mpr
        fun path hpath => hopen path ((hsame path).mpr hpath)
      have hargs' : args'.actsOn ≠ [] := by
        obtain ⟨path, hpath⟩ := List.exists_mem_of_ne_nil paths hargs
        exact List.ne_nil_of_mem ((hsame path).mp hpath)
      exact ⟨files', run_create_of_ok hl hargs' h', FileSystem.same_createAll h h' hsame⟩
  · intro before path after files e hpaths h hopen
    exact ⟨run_create_of_error hl hpaths h hopen, rfl⟩

omit hl in
/-- A file is created where a link leads, and one that is there stays; the order is of no
importance.  A path into a directory that there is not ends it. -/
theorem run_create_eq_createAll_link :
    let files : FileSystem :=
      ⟨[([utf8 "link"], .link (utf8 "d/new")), ([utf8 "d"], .directory),
        ([utf8 "old"], .file (utf8 "text") 0o600)], [], [], []⟩
    let files' := files.add [utf8 "d", utf8 "new"] (.file [] newFileMode)
    let s := Session.start LimitedSink.unlimited LimitedSink.unlimited (⟨[]⟩ : ScriptedLauncher)
      files .off
    let args : ArgVector := ["cr", "old", "link", "link"].map utf8
    let reordered : ArgVector := ["cr", "--", "link", "old"].map utf8
    let failing : ArgVector := ["cr", "link", "e/f", "g"].map utf8
    create.run args s = (.ok .proceed, { s with files := files' }) ∧
      create.run args { s with files := files' } = create.run args s ∧
      (∃ files₂, create.run reordered s = (.ok .proceed, { s with files := files₂ }) ∧
        files'.Same files₂) ∧
      create.run failing s =
        (.error (.cannotCreate "e/f" (.system .noEntry)), { s with files := files' }) := by
  intro files files' s args reordered failing
  have hargs : args.actsOn = ["old", "link", "link"] := by
    cbv
  have hreordered : reordered.actsOn = ["link", "old"] := by
    cbv
  have hfailing : failing.actsOn = ["link", "e/f", "g"] := by
    cbv
  have hcreate : files.createAll args.actsOn = .ok files' := by
    rw [hargs]
    cbv
  have hbefore : files.createAll ["link"] = .ok files' := by
    cbv
  have hopen : files'.openAppend (utf8 "e/f") = .error (.system .noEntry) := by
    cbv
  have hl : Aloof s.launcher := ScriptedLauncher.aloof _
  have hsome : args.actsOn ≠ [] := hargs ▸ List.cons_ne_nil _ _
  have hsome' : failing.actsOn ≠ [] := hfailing ▸ List.cons_ne_nil _ _
  obtain ⟨-, -, hok, -⟩ := run_create_eq_createAll (s := s) hl hsome
  obtain ⟨-, -, -, herror⟩ := run_create_eq_createAll (s := s) hl hsome'
  obtain ⟨hrun, -, -, hagain, hsame⟩ := hok files' hcreate
  obtain ⟨hfails, -⟩ := herror ["link"] "e/f" ["g"] files' _ hfailing hbefore hopen
  refine ⟨hrun, ?_, hsame reordered ?_, hfails⟩
  · rwa [hrun] at hagain ⊢
  · rw [hargs, hreordered]
    simp [or_comm]

end Builtin

end CommandShell
