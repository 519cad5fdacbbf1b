import CommandShell.Proofs.Pieces
import CommandShell.Table

/-!
# What handlers come to

Some properties hold of a handler if they hold of all that may follow its first act
(`Handler.HandedOn`).  What follows from this for the parts that the builtin commands are made of is
proved once for all such properties.

A handler *yields* verdicts of a kind if it writes byte strings as a whole and comes to no other
verdict, whatever its acts answer (`Handler.Yields`); this is one of them.

What the builtin commands quote in their failures are arguments or arguments as they are shown
(`Builtin.yields_handler`): the name of the command, the arguments that are no texts, and the paths.
-/

namespace CommandShell

/-! ### Options -/

namespace Grammar

variable {α : Type} {g : Grammar α} {P : α → Prop} {arguments : List String}

/-- Arguments amount to what was read, unless help was asked for. -/
lemma eq_of_conclude_eq_run {value result : α} {help : Bool}
    (h : conclude value help = .run result) : value = result := by
  cases help with
  | false => cases h; rfl
  | true => cases h

/-- What operands preserve holds after reading them. -/
lemma readOperands_induction {value result : α} {help : Bool}
    (operand : ∀ add, g.operand? = some add → ∀ value, ∀ argument ∈ arguments, P value →
      P (add value argument))
    {rest : List String} (hrest : ∀ argument ∈ rest, argument ∈ arguments)
    (h : g.readOperands value help rest = .run result) (hvalue : P value) : P result := by
  induction rest generalizing value with
  | nil => exact eq_of_conclude_eq_run h ▸ hvalue
  | cons argument rest ih =>
    obtain ⟨hargument, hrest⟩ := List.forall_mem_cons.mp hrest
    rw [readOperands] at h
    split at h
    · next add hadd => exact ih hrest h (operand add hadd value argument hargument hvalue)
    · cases h

/-- What the options and operands of a grammar preserve holds of what arguments amount to. -/
lemma read_induction {result : α} (h : g.read arguments = .run result) (start : P g.start)
    (switch : ∀ name set, g.option? name = some (.switch set) → ∀ value, P value → P (set value))
    (value : ∀ name set, g.option? name = some (.value set) → ∀ value given value',
      set value given = .ok value' → P value → P value')
    (operand : ∀ add, g.operand? = some add → ∀ value, ∀ argument ∈ arguments, P value →
      P (add value argument)) : P result := by
  have hoptions (v : α) (help : Bool) (rest : List String) (hrest : ∀ a ∈ rest, a ∈ arguments)
      (h : g.readOptions v help rest = .run result) (hv : P v) : P result := by
    fun_induction readOptions g v help rest with
    | case1 v help => exact eq_of_conclude_eq_run h ▸ hv
    | case2 v help a rest ha ih => exact ih (List.forall_mem_cons.mp hrest).2 h hv
    | case3 v help rest hno =>
      exact readOperands_induction operand (List.forall_mem_cons.mp hrest).2 h hv
    | case4 => cases h
    | case5 => cases h
    | case6 v help a hno hdash hlooks hhelp set rest hopt ih =>
      exact ih (List.forall_mem_cons.mp hrest).2 h (switch a set hopt v hv)
    | case7 => cases h
    | case8 v help a hno hdash hlooks hhelp set given rest hopt v' hset ih =>
      have hrest := (List.forall_mem_cons.mp (List.forall_mem_cons.mp hrest).2).2
      exact ih hrest h (value a set hopt v given v' hset hv)
    | case9 => cases h
    | case10 v help a rest hno hdash hlooks => exact readOperands_induction operand hrest h hv
  exact hoptions g.start false arguments (fun a ha => ha) h start

end Grammar

/-- Paths are among the arguments. -/
lemma PathRequest.mem_of_mem_paths {arguments : List String} {request : PathRequest}
    (h : grammar.read arguments = .run request) {path : String} (hpath : path ∈ request.paths) :
    path ∈ arguments := by
  refine Grammar.read_induction (P := fun r => ∀ path ∈ r.paths, path ∈ arguments) h ?_ ?_ ?_ ?_
    path hpath
  · exact fun path hpath => absurd hpath List.not_mem_nil
  · intro name set hset r hr
    simp only [grammar] at hset
    split at hset
    · cases hset
      exact hr
    · cases hset
  · intro name set hset
    simp only [grammar] at hset
    split at hset <;> cases hset
  · intro add hadd r argument hargument hr path hpath
    cases hadd
    rcases List.mem_append.mp hpath with hpath | hpath
    · exact hr path hpath
    · exact List.mem_singleton.mp hpath ▸ hargument

/-! ### What is quoted -/

/-- The failure of input or output that a failure comes from. -/
def Failure.cause? : Failure → Option IoError
  | cannotCreate _ e | cannotOpen _ e | cannotRead _ e | output e => some e
  | notText _ _ | broken | layered | told _ _ => none

/-- The texts that a failure has from elsewhere, its cause aside. -/
def Failure.quoted : Failure → List String
  | notText name argument => [name, argument]
  | cannotCreate path _ | cannotOpen path _ | cannotRead path _ => [path]
  | output _ | broken | layered => []
  | told outermost causes => outermost :: causes

/-- A verdict that quotes nothing but arguments, if it is a failure: in their own bytes, or as they
are shown. -/
def Verdict.Quotes (args : ArgVector) (v : Verdict) : Prop :=
  ∀ f, v = .error f → ∀ text ∈ f.quoted, utf8 text ∈ args ∨ ∃ a ∈ args, text = Text.display a

namespace Verdict

variable {args : ArgVector}

/-- A command that does not fail quotes nothing. -/
lemma quotes_ok (status : Status) : Quotes args (.ok status) :=
  fun f hf => by cases hf

/-- A failure that quotes nothing. -/
lemma quotes_of_quoted_eq_nil {f : Failure} (h : f.quoted = []) : Quotes args (.error f) := by
  intro g hg text htext
  cases hg
  rw [h] at htext
  exact absurd htext List.not_mem_nil

/-- A failure that quotes an argument. -/
lemma quotes_of_quoted_eq_singleton {f : Failure} {text : String} (h : f.quoted = [text])
    (htext : utf8 text ∈ args) : Quotes args (.error f) := by
  intro g hg text' htext'
  cases hg
  rw [h] at htext'
  exact Or.inl (List.mem_singleton.mp htext' ▸ htext)

end Verdict

/-- The texts of arguments are their bytes, and the first that is none is shown. -/
lemma ArgVector.quotes_texts (name : String) (arguments : List Bytes) :
    (∀ f, texts name arguments = .error f →
      ∀ text ∈ f.quoted, text = name ∨ ∃ a ∈ arguments, text = Text.display a) ∧
    ∀ decoded, texts name arguments = .ok decoded → ∀ text ∈ decoded, utf8 text ∈ arguments := by
  induction arguments with
  | nil =>
    refine ⟨fun f hf => (by cases hf), fun decoded hdecoded => ?_⟩
    cases hdecoded
    exact fun text htext => absurd htext List.not_mem_nil
  | cons argument rest ih =>
    obtain ⟨herror, hok⟩ := ih
    rw [texts]
    cases htext : Text.decode? argument with
    | none =>
      refine ⟨fun f hf text hmem => ?_, fun decoded hdecoded => (by cases hdecoded)⟩
      cases hf
      rcases List.mem_pair.mp hmem with rfl | rfl
      · exact Or.inl rfl
      · exact Or.inr ⟨argument, List.mem_cons_self, rfl⟩
    | some decoded =>
      simp only
      cases hothers : texts name rest with
      | error f =>
        refine ⟨fun g hg text hmem => ?_, fun others hothers => (by cases hothers)⟩
        cases hg
        rcases herror f hothers text hmem with hname | ⟨a, ha, hshown⟩
        · exact Or.inl hname
        · exact Or.inr ⟨a, List.mem_cons_of_mem _ ha, hshown⟩
      | ok others =>
        refine ⟨fun g hg => (by cases hg), fun all hall => ?_⟩
        cases hall
        refine List.forall_mem_cons.mpr ⟨?_, fun text hmem => ?_⟩
        · rw [Text.utf8_of_decode?_eq_some htext]
          exact List.mem_cons_self
        · exact List.mem_cons_of_mem _ (hok others hothers text hmem)

/-! ### Properties that are handed on -/

namespace Handler

/-- A property that a handler has if all that may follow its first act has it.  Paths that are
opened to be appended to have to be of a kind for that. -/
structure HandedOn (A : Bytes → Prop) (Q : Handler → Prop) : Prop where
  print : ∀ bytes next, (∀ answer, Q (next answer)) → Q (.print bytes next)
  read : ∀ path next, (∀ answer, Q (next answer)) → Q (.read path next)
  append : ∀ path next, A path → (∀ answer, Q (next answer)) → Q (.append path next)

namespace HandedOn

variable {A : Bytes → Prop} {Q : Handler → Prop} (h : HandedOn A Q)
include h

lemma printTexts {next : Handler} (hnext : Q next) (houtput : ∀ e, Q (.done (.error (.output e))))
    (texts : List String) : Q (Handler.printTexts next texts) := by
  induction texts with
  | nil => exact hnext
  | cons text rest ih =>
    refine h.print _ _ fun failure => ?_
    cases failure with
    | none => exact ih
    | some e => exact houtput e

lemma printBlocks {next : Option IoError → Handler} (hnext : ∀ failure, Q (next failure))
    (bytes : Bytes) : Q (Handler.printBlocks next bytes) := by
  fun_induction Handler.printBlocks next bytes with
  | case1 => exact hnext none
  | case2 b rest ih =>
    refine h.print _ _ fun failure => ?_
    cases failure with
    | none => exact ih
    | some e => exact hnext (some e)

lemma printReading {next : Option IoError → Handler} (hnext : ∀ failure, Q (next failure))
    (r : Reading) : Q (Handler.printReading r next) := by
  refine h.printBlocks (fun failure => ?_) r.content
  cases failure with
  | none => exact hnext r.failure
  | some e => exact hnext (some e)

/-- Printing files comes to a failure for one of the paths, or goes on. -/
lemma printFiles (hproceed : Q (.done (.ok .proceed))) {paths : List String}
    (hopen : ∀ path ∈ paths, ∀ e, Q (.done (.error (.cannotOpen path e))))
    (hread : ∀ path ∈ paths, ∀ e, Q (.done (.error (.cannotRead path e)))) :
    Q (Handler.printFiles paths) := by
  induction paths with
  | nil => exact hproceed
  | cons path rest ih =>
    obtain ⟨hopen, hopens⟩ := List.forall_mem_cons.mp hopen
    obtain ⟨hread, hreads⟩ := List.forall_mem_cons.mp hread
    refine h.read _ _ fun opened => ?_
    cases opened with
    | error e => exact hopen e
    | ok reading =>
      refine h.printReading (fun failure => ?_) reading
      cases failure with
      | none => exact ih hopens hreads
      | some e => exact hread e

/-- Creating files opens the paths, and comes to a failure for one of them, or goes on. -/
lemma createFiles (hproceed : Q (.done (.ok .proceed))) {paths : List String}
    (hopens : ∀ path ∈ paths, A (utf8 path))
    (hcreate : ∀ path ∈ paths, ∀ e, Q (.done (.error (.cannotCreate path e)))) :
    Q (Handler.createFiles paths) := by
  induction paths with
  | nil => exact hproceed
  | cons path rest ih =>
    obtain ⟨hopen, hopens⟩ := List.forall_mem_cons.mp hopens
    obtain ⟨hcreate, hcreates⟩ := List.forall_mem_cons.mp hcreate
    refine h.append _ _ hopen fun opened => ?_
    cases opened with
    | ok _ => exact ih hopens hcreates
    | error e => exact hcreate e

/-- A command that takes paths refuses arguments that are no texts, fails to print, or goes on,
unless its arguments amount to a request and it comes to what it does with the paths of that. -/
lemma withPaths (m : Manual) {act : List String → Handler} {args : ArgVector}
    (hproceed : Q (.done (.ok .proceed))) (houtput : ∀ e, Q (.done (.error (.output e))))
    (htexts : ∀ name rest f, args = name :: rest →
      ArgVector.texts (Text.display name) rest = .error f → Q (.done (.error f)))
    (hact : ∀ name rest texts request, args = name :: rest →
      ArgVector.texts (Text.display name) rest = .ok texts →
      PathRequest.grammar.read texts = .run request → request.manual = false →
        Q (act request.paths)) :
    Q (Handler.withPaths m act args) := by
  cases args with
  | nil => exact hproceed
  | cons name rest =>
    rw [Handler.withPaths]
    cases hdecoded : ArgVector.texts (Text.display name) rest with
    | error f => exact htexts name rest f rfl hdecoded
    | ok texts =>
      simp only
      cases hread : PathRequest.grammar.read texts with
      | help => exact h.printTexts hproceed houtput _
      | refused r => exact h.printTexts hproceed houtput _
      | run request =>
        simp only
        split
        · exact h.printTexts hproceed houtput _
        · next hmanual =>
          split
          · exact h.printTexts hproceed houtput _
          · exact hact name rest texts request rfl hdecoded hread (Bool.eq_false_iff.mpr hmanual)

end HandedOn

end Handler

/-! ### Verdicts of handlers -/

namespace Handler

/-- A handler writes byte strings as a whole, and whatever its acts answer, it comes to a verdict of
a kind. -/
def Yields (P : Verdict → Prop) : Handler → Prop
  | done v => P v
  | print _ next => ∀ answer, (next answer).Yields P
  | offer _ _ => False
  | flush next => ∀ answer, (next answer).Yields P
  | read _ next => ∀ answer, (next answer).Yields P
  | append _ next => ∀ answer, (next answer).Yields P
  | change _ next => ∀ files, (next files).Yields P

namespace Yields

variable {P : Verdict → Prop}

/-- The verdict of a run is one of those that the handler yields, or it is that the loop goes on. -/
lemma run {σ τ ℓ : Type} [Sink σ] [Launcher ℓ] {c : Handler} (h : c.Yields P)
    (hproceed : P (.ok .proceed)) (s : Session σ τ ℓ) : P (c.run s).1 := by
  induction c generalizing s with
  | done v => exact h
  | print bytes next ih => exact ih _ (h _) _
  | offer bytes next ih => exact h.elim
  | flush next ih => exact ih _ (h _) _
  | read path next ih =>
    rw [run_read]
    rcases s.readFile path with ⟨_ | answer, s'⟩
    · exact hproceed
    · exact ih answer (h answer) s'
  | append path next ih =>
    rw [run_append]
    rcases s.appendTo path with ⟨_ | answer, s'⟩
    · exact hproceed
    · exact ih answer (h answer) s'
  | change f next ih => exact ih _ (h _) _

/-- A verdict of a kind is one of a wider kind. -/
lemma mono {Q : Verdict → Prop} {c : Handler} (h : c.Yields P) (hPQ : ∀ v, P v → Q v) :
    c.Yields Q := by
  induction c with
  | done v => exact hPQ v h
  | print bytes next ih => exact fun answer => ih answer (h answer)
  | offer bytes next ih => exact h.elim
  | flush next ih => exact fun answer => ih answer (h answer)
  | read path next ih => exact fun answer => ih answer (h answer)
  | append path next ih => exact fun answer => ih answer (h answer)
  | change f next ih => exact fun answer => ih answer (h answer)

lemma done {v : Verdict} (h : P v) : (Handler.done v).Yields P := h

/-- Verdicts are handed on. -/
lemma handedOn (P : Verdict → Prop) : HandedOn (fun _ => True) (Yields P) :=
  ⟨fun _ _ h => h, fun _ _ h => h, fun _ _ _ h => h⟩

/-- A command that takes paths refuses arguments that are no texts, fails to print, or goes on,
unless it comes to what it does with its paths, which are among the arguments. -/
lemma withPaths (m : Manual) {act : List String → Handler} {args : ArgVector}
    (hproceed : P (.ok .proceed)) (houtput : ∀ e, P (.error (.output e)))
    (htexts : ∀ name rest f, args = name :: rest →
      ArgVector.texts (Text.display name) rest = .error f → P (.error f))
    (hact : ∀ paths, (∀ path ∈ paths, utf8 path ∈ args) → (act paths).Yields P) :
    (Handler.withPaths m act args).Yields P := by
  refine (handedOn P).withPaths m hproceed houtput htexts ?_
  intro name rest texts request hargs hdecoded hread _
  have hmem := (ArgVector.quotes_texts (Text.display name) rest).2 texts hdecoded
  subst hargs
  exact hact request.paths fun path hpath =>
    List.mem_cons_of_mem _ (hmem path (PathRequest.mem_of_mem_paths hread hpath))

end Yields

open Verdict (Quotes)

variable {args : ArgVector}

/-- Printing texts quotes nothing. -/
lemma yields_printTexts {v : Verdict} (hv : Quotes args v) (texts : List String) :
    (printTexts (.done v) texts).Yields (Quotes args) :=
  (Yields.handedOn (Quotes args)).printTexts (Yields.done hv)
    (fun _ => Verdict.quotes_of_quoted_eq_nil rfl) texts

/-- A command that takes paths quotes its name, the arguments that are no texts, and what it quotes
for its paths. -/
lemma yields_withPaths (m : Manual) {act : List String → Handler}
    (hact : ∀ paths, (∀ path ∈ paths, utf8 path ∈ args) → (act paths).Yields (Quotes args)) :
    (withPaths m act args).Yields (Quotes args) := by
  refine Yields.withPaths m (Verdict.quotes_ok .proceed)
    (fun _ => Verdict.quotes_of_quoted_eq_nil rfl) ?_ hact
  rintro name rest f rfl hf g hg text htext
  cases hg
  rcases (ArgVector.quotes_texts (Text.display name) rest).1 f hf text htext with
    rfl | ⟨a, ha, hshown⟩
  · exact Or.inr ⟨name, List.mem_cons_self, rfl⟩
  · exact Or.inr ⟨a, List.mem_cons_of_mem _ ha, hshown⟩

end Handler

/-- The builtin commands write byte strings as a whole and quote nothing but their arguments. -/
theorem Builtin.yields_handler (b : Builtin) (args : ArgVector) :
    (b.handler args).Yields (Verdict.Quotes args) := by
  cases b with
  | create =>
    refine Handler.yields_withPaths .create fun paths hpaths => ?_
    exact (Handler.Yields.handedOn (Verdict.Quotes args)).createFiles (Verdict.quotes_ok .proceed)
      (fun _ _ => trivial)
      (fun path hpath _ => Verdict.quotes_of_quoted_eq_singleton rfl (hpaths path hpath))
  | print =>
    refine Handler.yields_withPaths .print fun paths hpaths => ?_
    exact (Handler.Yields.handedOn (Verdict.Quotes args)).printFiles (Verdict.quotes_ok .proceed)
      (fun path hpath _ => Verdict.quotes_of_quoted_eq_singleton rfl (hpaths path hpath))
      (fun path hpath _ => Verdict.quotes_of_quoted_eq_singleton rfl (hpaths path hpath))
  | help => exact Handler.yields_printTexts (Verdict.quotes_ok .proceed) _
  | exit => exact Verdict.quotes_ok .stop
  | echo =>
    intro failure
    cases failure with
    | none => exact Verdict.quotes_ok .proceed
    | some e => exact Verdict.quotes_of_quoted_eq_nil rfl
  | quit => exact Handler.yields_printTexts (Verdict.quotes_ok .stop) _
  | fail => exact Verdict.quotes_of_quoted_eq_nil rfl
  | chain => exact Handler.yields_printTexts (Verdict.quotes_of_quoted_eq_nil rfl) _

end CommandShell
