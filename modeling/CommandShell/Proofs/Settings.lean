import CommandShell.Config
import Mathlib

/-!
# Which arguments configure the interpreter

The arguments that configure the interpreter are made of blocks: `--no-prompt`, or `--log-level`
and a name that spells a choice in any mix of upper and lower case, of which at most one is about
which records are kept.  These are `Config.Settings`.  Two hyphens may follow the blocks, or
requests for help and then two hyphens, and nothing else may.

All arguments begin with a longest such list of blocks (`Config.exists_blocks`), and blocks are
read one after the other whatever follows them (`Config.readOptions_blocks`).  So what the
arguments come to is decided where no block can be taken any more (`Config.Stuck.concludes`): there
they end, or ask for help, or are refused.  A refusal is one for all longer lists of arguments,
unless it is that the value of the last argument is missing
(`Grammar.readOptions_append_of_refused`).
-/

namespace CommandShell

namespace Grammar

variable {α : Type} {g : Grammar α} {value : α} {help : Bool} {argument : String}
  {rest : List String}

/-! ### How one argument is read -/

/-- An argument that is read as an option: it begins with a hyphen, and is neither a request for
help nor two hyphens. -/
structure ReadsAsOption (argument : String) : Prop where
  noHelp : ¬ asksHelp argument = true
  noDashes : argument ≠ "--"
  looks : looksLikeOption argument = true

lemma readOptions_cons_of_asksHelp (h : asksHelp argument = true) :
    g.readOptions value help (argument :: rest) = g.readOptions value true rest := by
  rw [readOptions_cons, if_pos h]

lemma readOptions_dashes :
    g.readOptions value help ("--" :: rest) = g.readOperands value help rest := by
  rw [readOptions_cons, if_neg (by decide), if_pos rfl]

lemma readOptions_cons_of_operand (h : ¬ asksHelp argument = true)
    (h' : ¬ looksLikeOption argument = true) :
    g.readOptions value help (argument :: rest) = g.readOperands value help (argument :: rest) := by
  have hdashes : argument ≠ "--" := by
    rintro rfl
    exact h' (by decide)
  rw [readOptions_cons, if_neg h, if_neg hdashes, if_neg h']

namespace ReadsAsOption

variable (h : ReadsAsOption argument)
include h

/-- An option after a request for help is refused. -/
lemma readOptions_late : g.readOptions value true (argument :: rest) = .refused .afterHelp := by
  rw [readOptions_cons, if_neg h.noHelp, if_neg h.noDashes, if_pos h.looks, if_pos rfl]

/-- Otherwise it is looked up. -/
lemma readOptions_early :
    g.readOptions value false (argument :: rest) =
      match g.option? argument, rest with
      | none, _ => .refused (.unrecognized argument)
      | some (.switch set), rest => g.readOptions (set value) false rest
      | some (.value _), [] => .refused (.valueMissing argument)
      | some (.value set), given :: rest =>
        match set value given with
        | .ok value => g.readOptions value false rest
        | .error reason => .refused (.valueRefused argument given reason) := by
  have hcons := g.readOptions_cons value false argument rest
  rw [if_neg h.noHelp, if_neg h.noDashes, if_pos h.looks, if_neg Bool.false_ne_true] at hcons
  exact hcons

lemma readOptions_unknown (hoption : g.option? argument = none) :
    g.readOptions value false (argument :: rest) = .refused (.unrecognized argument) := by
  rw [h.readOptions_early]
  simp only [hoption]

lemma readOptions_switch {set : α → α} (hoption : g.option? argument = some (.switch set)) :
    g.readOptions value false (argument :: rest) = g.readOptions (set value) false rest := by
  rw [h.readOptions_early]
  simp only [hoption]

variable {set : α → String → Except String α} (hoption : g.option? argument = some (.value set))
include hoption

lemma readOptions_missing :
    g.readOptions value false [argument] = .refused (.valueMissing argument) := by
  rw [h.readOptions_early]
  simp only [hoption]

variable {given : String}

lemma readOptions_value {value' : α} (hset : set value given = .ok value') :
    g.readOptions value false (argument :: given :: rest) = g.readOptions value' false rest := by
  rw [h.readOptions_early]
  simp only [hoption, hset]

lemma readOptions_refused {reason : String} (hset : set value given = .error reason) :
    g.readOptions value false (argument :: given :: rest) =
      .refused (.valueRefused argument given reason) := by
  rw [h.readOptions_early]
  simp only [hoption, hset]

end ReadsAsOption

/-! ### Refusals are final -/

variable {arguments : List String} {r : Refusal}

/-- Arguments that have been read to the end are not refused. -/
lemma conclude_ne_refused : conclude value help ≠ .refused r := by
  cases help <;> simp [conclude]

/-- An operand that there is no place for is refused, whatever follows it. -/
lemma readOperands_append_of_refused (h : g.readOperands value help arguments = .refused r)
    (more : List String) : g.readOperands value help (arguments ++ more) = .refused r := by
  induction arguments generalizing value with
  | nil => exact absurd h conclude_ne_refused
  | cons argument rest ih =>
    rw [List.cons_append]
    rw [readOperands] at h ⊢
    split at h
    · exact ih h
    · exact h

/-- What is refused is refused whatever follows it, unless a value is missing at the end. -/
theorem readOptions_append_of_refused (h : g.readOptions value help arguments = .refused r)
    (hr : ∀ option, r ≠ .valueMissing option) (more : List String) :
    g.readOptions value help (arguments ++ more) = .refused r := by
  fun_induction readOptions g value help arguments with
  | case1 value help => exact absurd h conclude_ne_refused
  | case2 value help argument rest hhelp ih =>
    exact (readOptions_cons_of_asksHelp hhelp).trans (ih h)
  | case3 value help rest hhelp =>
    exact readOptions_dashes.trans (readOperands_append_of_refused h more)
  | case4 value argument rest hhelp hdashes hlooks =>
    exact (ReadsAsOption.mk hhelp hdashes hlooks).readOptions_late.trans h
  | case5 value help argument rest hhelp hdashes hlooks hnohelp hoption =>
    obtain rfl := eq_false_of_ne_true hnohelp
    exact ((ReadsAsOption.mk hhelp hdashes hlooks).readOptions_unknown hoption).trans h
  | case6 value help argument hhelp hdashes hlooks hnohelp set rest hoption ih =>
    obtain rfl := eq_false_of_ne_true hnohelp
    exact ((ReadsAsOption.mk hhelp hdashes hlooks).readOptions_switch hoption).trans (ih h)
  | case7 value help argument hhelp hdashes hlooks hnohelp set hoption =>
    cases h
    exact absurd rfl (hr argument)
  | case8 value help argument hhelp hdashes hlooks hnohelp set given rest hoption value' hset ih =>
    obtain rfl := eq_false_of_ne_true hnohelp
    exact ((ReadsAsOption.mk hhelp hdashes hlooks).readOptions_value hoption hset).trans (ih h)
  | case9 value help argument hhelp hdashes hlooks hnohelp set given rest hoption reason hset =>
    obtain rfl := eq_false_of_ne_true hnohelp
    exact ((ReadsAsOption.mk hhelp hdashes hlooks).readOptions_refused hoption hset).trans h
  | case10 value help argument rest hhelp hdashes hlooks =>
    exact (readOptions_cons_of_operand hhelp hlooks).trans (readOperands_append_of_refused h more)

end Grammar

/-! ### Names of choices -/

/-- Upper case letters are made lower case, and nothing else is. -/
lemma toNat_toLower (c : Char) :
    c.toLower.toNat = if 65 ≤ c.toNat ∧ c.toNat ≤ 90 then c.toNat + 32 else c.toNat := by
  rw [Char.toLower]
  split
  · next h =>
    have hc : 65 ≤ c.toNat ∧ c.toNat ≤ 90 := by simpa [UInt32.le_iff_toNat_le] using h
    rw [if_pos hc]
    change (c.val + 32).toNat = _
    rw [UInt32.toNat_add]
    change (c.toNat + 32) % 2 ^ 32 = _
    omega
  · next h =>
    rw [if_neg]
    simpa [UInt32.le_iff_toNat_le] using h

/-- A lower case letter is made upper case. -/
lemma toNat_toUpper {d : Char} (hd : 97 ≤ d.toNat ∧ d.toNat ≤ 122) :
    d.toUpper.toNat = d.toNat - 32 := by
  rw [Char.toUpper, dif_pos (by simpa [UInt32.le_iff_toNat_le] using hd)]
  change (d.val + 4294967264).toNat = _
  rw [UInt32.toNat_add]
  change (d.toNat + 4294967264) % 2 ^ 32 = _
  omega

/-- What is made a lower case letter is that letter or the upper case one. -/
lemma toLower_eq_iff {c d : Char} (hd : d.isLower = true) :
    c.toLower = d ↔ c = d ∨ c = d.toUpper := by
  have hrange : 97 ≤ d.toNat ∧ d.toNat ≤ 122 := by
    simpa [Char.isLower, UInt32.le_iff_toNat_le] using hd
  simp only [← Char.toNat_inj, toNat_toLower, toNat_toUpper hrange]
  split <;> omega

namespace Verbosity

/-- A text spells a choice if it has the letters of its name, each in lower or in upper case. -/
def SpelledBy (v : Verbosity) (text : String) : Prop :=
  List.Forall₂ (fun c d => c = d ∨ c = d.toUpper) text.toList v.name.toList

/-- The names of the choices are in lower case. -/
lemma isLower_of_mem_name (v : Verbosity) : ∀ d ∈ v.name.toList, d.isLower = true := by
  obtain ⟨limit | limit⟩ := v
  · simp [name]
  · cases limit <;> simp [name]

/-- Each choice is listed under its name. -/
lemma lookup_names_eq_some_iff {key : String} {v : Verbosity} :
    names.lookup key = some v ↔ key = v.name := by
  constructor
  · intro h
    obtain ⟨before, after, hnames, -⟩ := List.lookup_eq_some_iff.mp h
    have hmem : (key, v) ∈ names := by
      rw [hnames]
      exact List.mem_append_right before List.mem_cons_self
    simp only [names, List.mem_cons, Prod.mk.injEq, List.not_mem_nil, or_false] at hmem
    rcases hmem with ⟨rfl, rfl⟩ | ⟨rfl, rfl⟩ | ⟨rfl, rfl⟩ | ⟨rfl, rfl⟩ | ⟨rfl, rfl⟩ | ⟨rfl, rfl⟩ <;>
      rfl
  · rintro rfl
    obtain ⟨limit | limit⟩ := v
    · rfl
    · cases limit <;> rfl

/-- A choice is found by the texts that spell it. -/
theorem ofName?_eq_some_iff {text : String} {v : Verbosity} :
    ofName? text = some v ↔ v.SpelledBy text := by
  have hletters (cs ds : List Char) (hds : ∀ d ∈ ds, d.isLower = true) :
      cs.map Char.toLower = ds ↔ List.Forall₂ (fun c d => c = d ∨ c = d.toUpper) cs ds := by
    induction cs generalizing ds with
    | nil => cases ds <;> simp
    | cons c cs ih =>
      cases ds with
      | nil => simp
      | cons d ds =>
        obtain ⟨hd, hds⟩ := List.forall_mem_cons.mp hds
        rw [List.map_cons, List.cons.injEq, List.forall₂_cons, toLower_eq_iff hd, ih ds hds]
  rw [ofName?, lookup_names_eq_some_iff, SpelledBy, ← hletters _ _ v.isLower_of_mem_name,
    ← String.toList_inj, String.toList_ofList]

end Verbosity

namespace Config

/-! ### Blocks -/

/-- Arguments that say one thing about how the interpreter is started. -/
inductive Block where
  /-- The prompt is left out. -/
  | noPrompt
  /-- Which records are kept, by a name that spells a choice. -/
  | level (name : String) (v : Verbosity) (spelled : v.SpelledBy name)

namespace Block

/-- The arguments of a block. -/
def arguments : Block → List String
  | noPrompt => [noPromptOption]
  | level name _ _ => [logLevelOption, name]

/-- Whether a block leaves out the prompt. -/
def isNoPrompt : Block → Bool
  | noPrompt => true
  | level _ _ _ => false

/-- Which records are kept, if a block says that. -/
def verbosity? : Block → Option Verbosity
  | noPrompt => none
  | level _ v _ => some v

end Block

/-- Blocks that say at most once which records are kept. -/
structure Settings where
  /-- The blocks, in order. -/
  blocks : List Block
  /-- Which records are kept is said at most once. -/
  once : (blocks.filterMap Block.verbosity?).length ≤ 1

namespace Settings

/-- The arguments of the blocks. -/
def arguments (x : Settings) : List String :=
  x.blocks.flatMap Block.arguments

/-- Which records are kept, if it is said. -/
def verbosity? (x : Settings) : Option Verbosity :=
  x.blocks.findSome? Block.verbosity?

/-- The configuration that the blocks amount to. -/
def config (x : Settings) : Config :=
  ⟨x.blocks.any Block.isNoPrompt, x.verbosity?.getD (.upTo .warn)⟩

/-- Arguments are those of the blocks, and two hyphens may follow them. -/
def GivenBy (x : Settings) (arguments : List String) : Prop :=
  arguments = x.arguments ∨ arguments = x.arguments ++ ["--"]

end Settings

/-- Arguments ask for help after some blocks, and two hyphens may follow. -/
def AskHelp (arguments : List String) : Prop :=
  ∃ (x : Settings) (asking : List String), asking ≠ [] ∧
    (∀ argument ∈ asking, argument = "--help" ∨ argument = "help") ∧
    (arguments = x.arguments ++ asking ∨ arguments = x.arguments ++ asking ++ ["--"])

namespace Choice

variable {c : Choice} {blocks : List Block}

/-- The options read so far and those of some blocks. -/
def after (c : Choice) (blocks : List Block) : Choice :=
  ⟨c.noPrompt || blocks.any Block.isNoPrompt, c.verbosity?.or (blocks.findSome? Block.verbosity?)⟩

/-- Some blocks may follow the options read so far: which records are kept is said at most once. -/
def Admits (c : Choice) (blocks : List Block) : Prop :=
  (c.verbosity?.toList ++ blocks.filterMap Block.verbosity?).length ≤ 1

lemma after_nil : c.after [] = c := by
  simp [after]

lemma after_noPrompt :
    c.after (.noPrompt :: blocks) = after { c with noPrompt := true } blocks := by
  simp only [after, List.any_cons, Block.isNoPrompt, List.findSome?_cons, Block.verbosity?,
    Bool.true_or, Bool.or_true]

lemma after_level {text : String} {v : Verbosity} {spelled : v.SpelledBy text}
    (hnone : c.verbosity? = none) :
    c.after (.level text v spelled :: blocks) = after { c with verbosity? := some v } blocks := by
  simp only [after, List.any_cons, Block.isNoPrompt, List.findSome?_cons, Block.verbosity?, hnone,
    Bool.false_or, Option.none_or, Option.some_or]

lemma admits_nil : c.Admits [] := by
  cases h : c.verbosity? <;> simp [Admits, h]

lemma admits_noPrompt_iff :
    c.Admits (.noPrompt :: blocks) ↔ Admits { c with noPrompt := true } blocks := Iff.rfl

lemma admits_level_iff {text : String} {v : Verbosity} {spelled : v.SpelledBy text} :
    c.Admits (.level text v spelled :: blocks) ↔
      c.verbosity? = none ∧ Admits { c with verbosity? := some v } blocks := by
  cases h : c.verbosity? <;> simp [Admits, Block.verbosity?, h]

end Choice

/-! ### Reading blocks -/

lemma readsAsOption_noPrompt : Grammar.ReadsAsOption noPromptOption :=
  ⟨by decide, by decide, by decide⟩

lemma readsAsOption_logLevel : Grammar.ReadsAsOption logLevelOption :=
  ⟨by decide, by decide, by decide⟩

lemma option?_noPrompt :
    grammar.option? noPromptOption = some (.switch fun c => { c with noPrompt := true }) := rfl

lemma option?_logLevel : grammar.option? logLevelOption = some (.value Choice.setVerbosity) := rfl

/-- There are no other options. -/
lemma option?_eq_none {argument : String} (h : argument ≠ noPromptOption)
    (h' : argument ≠ logLevelOption) : grammar.option? argument = none := by
  simp only [grammar, if_neg h, if_neg h']

namespace Choice

variable {c : Choice} {text : String} {v : Verbosity}

/-- A choice that is spelled is taken if there was none before. -/
lemma setVerbosity_of_spelledBy (h : v.SpelledBy text) (hnone : c.verbosity? = none) :
    c.setVerbosity text = .ok { c with verbosity? := some v } := by
  simp only [setVerbosity, hnone, Verbosity.ofName?_eq_some_iff.mpr h]

/-- A text that spells no choice is none. -/
lemma setVerbosity_of_not_spelledBy (h : ∀ v : Verbosity, ¬ v.SpelledBy text)
    (hnone : c.verbosity? = none) :
    c.setVerbosity text = .error ("unknown log level: " ++ text) := by
  have hname : Verbosity.ofName? text = none :=
    Option.eq_none_iff_forall_ne_some.mpr fun v hv => h v (Verbosity.ofName?_eq_some_iff.mp hv)
  simp only [setVerbosity, hnone, hname]

/-- A second choice is not taken, whatever its text is. -/
lemma setVerbosity_of_ne_none (h : c.verbosity? ≠ none) :
    c.setVerbosity text = .error "duplicate values provided" := by
  obtain ⟨w, hw⟩ := Option.ne_none_iff_exists'.mp h
  simp only [setVerbosity, hw]

end Choice

/-- Blocks are read one after the other, whatever follows them. -/
theorem readOptions_blocks {c : Choice} {blocks : List Block} (h : c.Admits blocks)
    (rest : List String) :
    grammar.readOptions c false (blocks.flatMap Block.arguments ++ rest) =
      grammar.readOptions (c.after blocks) false rest := by
  induction blocks generalizing c with
  | nil => rw [c.after_nil, List.flatMap_nil, List.nil_append]
  | cons block blocks ih =>
    rw [List.flatMap_cons, List.append_assoc]
    cases block with
    | noPrompt =>
      rw [Choice.after_noPrompt, ← ih (Choice.admits_noPrompt_iff.mp h)]
      exact readsAsOption_noPrompt.readOptions_switch option?_noPrompt
    | level text v spelled =>
      obtain ⟨hnone, h⟩ := Choice.admits_level_iff.mp h
      rw [Choice.after_level hnone, ← ih h]
      exact readsAsOption_logLevel.readOptions_value option?_logLevel
        (Choice.setVerbosity_of_spelledBy spelled hnone)

/-! ### What follows the blocks -/

/-- What stands after the blocks, and what the arguments come to with it. -/
inductive Concludes (c : Choice) : List String → Request Choice → Prop
  /-- Nothing, or two hyphens. -/
  | run {rest : List String} (ended : rest = [] ∨ rest = ["--"]) : Concludes c rest (.run c)
  /-- Requests for help, and perhaps two hyphens. -/
  | help {rest asking : List String} (some : asking ≠ [])
      (asks : ∀ argument ∈ asking, argument = "--help" ∨ argument = "help")
      (ended : rest = asking ∨ rest = asking ++ ["--"]) : Concludes c rest .help
  /-- An option without its value. -/
  | missing : Concludes c [logLevelOption] (.refused (.valueMissing logLevelOption))
  /-- Anything else. -/
  | refused {rest : List String} {r : Refusal} (final : ∀ option, r ≠ .valueMissing option) :
      Concludes c rest (.refused r)

lemma asksHelp_iff {argument : String} :
    Grammar.asksHelp argument = true ↔ argument = "--help" ∨ argument = "help" := by
  simp [Grammar.asksHelp]

/-- There is no place for operands. -/
lemma readOperands_cons (c : Choice) (help : Bool) (argument : String) (rest : List String) :
    grammar.readOperands c help (argument :: rest) = .refused (.unrecognized argument) := rfl

/-- After a request for help more of them may follow, and two hyphens; all else is refused. -/
lemma readOptions_after_help (c : Choice) (rest : List String) :
    (grammar.readOptions c true rest = .help ∧
      ∃ asking : List String, (∀ argument ∈ asking, argument = "--help" ∨ argument = "help") ∧
        (rest = asking ∨ rest = asking ++ ["--"])) ∨
    ∃ r, grammar.readOptions c true rest = .refused r ∧ ∀ option, r ≠ .valueMissing option := by
  induction rest with
  | nil => exact Or.inl ⟨rfl, [], by simp, Or.inl rfl⟩
  | cons argument rest ih =>
    by_cases hhelp : Grammar.asksHelp argument = true
    · rw [Grammar.readOptions_cons_of_asksHelp hhelp]
      refine ih.imp_left fun ⟨hread, asking, hasks, hended⟩ => ⟨hread, argument :: asking, ?_, ?_⟩
      · exact List.forall_mem_cons.mpr ⟨asksHelp_iff.mp hhelp, hasks⟩
      · exact hended.imp (congrArg (argument :: ·)) (congrArg (argument :: ·))
    by_cases hdashes : argument = "--"
    · subst hdashes
      rw [Grammar.readOptions_dashes]
      cases rest with
      | nil => exact Or.inl ⟨rfl, [], by simp, Or.inr rfl⟩
      | cons operand rest => exact Or.inr ⟨_, readOperands_cons .., fun _ => Refusal.noConfusion⟩
    by_cases hlooks : Grammar.looksLikeOption argument = true
    · have hoption : Grammar.ReadsAsOption argument := ⟨hhelp, hdashes, hlooks⟩
      exact Or.inr ⟨_, hoption.readOptions_late, fun _ => Refusal.noConfusion⟩
    · rw [Grammar.readOptions_cons_of_operand hhelp hlooks]
      exact Or.inr ⟨_, readOperands_cons .., fun _ => Refusal.noConfusion⟩

/-- No block can be taken from the front of some arguments. -/
structure Stuck (c : Choice) (rest : List String) : Prop where
  noPrompt : ∀ more, rest ≠ noPromptOption :: more
  level : ∀ text more, rest = logLevelOption :: text :: more →
    c.verbosity? ≠ none ∨ ∀ v : Verbosity, ¬ v.SpelledBy text

/-- A value is taken for one whatever it looks like, and refused if it is a second one or spells no
choice. -/
lemma readOptions_value_refused {c : Choice} {text : String} (rest : List String)
    (h : c.verbosity? ≠ none ∨ ∀ v : Verbosity, ¬ v.SpelledBy text) :
    grammar.readOptions c false (logLevelOption :: text :: rest) =
      .refused (.valueRefused logLevelOption text
        (if c.verbosity? = none then "unknown log level: " ++ text
          else "duplicate values provided")) := by
  by_cases hnone : c.verbosity? = none
  · have hspelled := h.resolve_left fun hsome => hsome hnone
    rw [if_pos hnone]
    exact readsAsOption_logLevel.readOptions_refused option?_logLevel
      (Choice.setVerbosity_of_not_spelledBy hspelled hnone)
  · rw [if_neg hnone]
    exact readsAsOption_logLevel.readOptions_refused option?_logLevel
      (Choice.setVerbosity_of_ne_none hnone)

/-- Where no block can be taken any more, there is nothing more to be read, or help is asked for, or
the arguments are refused. -/
theorem Stuck.concludes {c : Choice} {rest : List String} (h : Stuck c rest) :
    Concludes c rest (grammar.readOptions c false rest) := by
  cases rest with
  | nil => exact .run (Or.inl rfl)
  | cons argument rest =>
    by_cases hhelp : Grammar.asksHelp argument = true
    · rw [Grammar.readOptions_cons_of_asksHelp hhelp]
      rcases readOptions_after_help c rest with ⟨hread, asking, hasks, hended⟩ | ⟨r, hread, hr⟩
      · rw [hread]
        exact .help (List.cons_ne_nil argument asking)
          (List.forall_mem_cons.mpr ⟨asksHelp_iff.mp hhelp, hasks⟩)
          (hended.imp (congrArg (argument :: ·)) (congrArg (argument :: ·)))
      · rw [hread]
        exact .refused hr
    by_cases hdashes : argument = "--"
    · subst hdashes
      rw [Grammar.readOptions_dashes]
      cases rest with
      | nil => exact .run (Or.inr rfl)
      | cons operand rest =>
        rw [readOperands_cons]
        exact .refused fun _ => Refusal.noConfusion
    by_cases hlooks : Grammar.looksLikeOption argument = true
    · have hoption : Grammar.ReadsAsOption argument := ⟨hhelp, hdashes, hlooks⟩
      have hprompt : argument ≠ noPromptOption := fun heq => h.noPrompt rest (heq ▸ rfl)
      by_cases hlevel : argument = logLevelOption
      · subst hlevel
        cases rest with
        | nil =>
          rw [hoption.readOptions_missing option?_logLevel]
          exact .missing
        | cons text rest =>
          rw [readOptions_value_refused rest (h.level text rest rfl)]
          exact .refused fun _ => Refusal.noConfusion
      · rw [hoption.readOptions_unknown (option?_eq_none hprompt hlevel)]
        exact .refused fun _ => Refusal.noConfusion
    · rw [Grammar.readOptions_cons_of_operand hhelp hlooks, readOperands_cons]
      exact .refused fun _ => Refusal.noConfusion

/-- All arguments begin with blocks after which no block can be taken. -/
theorem exists_blocks (c : Choice) (arguments : List String) :
    ∃ blocks rest, c.Admits blocks ∧ arguments = blocks.flatMap Block.arguments ++ rest ∧
      Stuck (c.after blocks) rest := by
  -- A block is one argument or two.
  induction hn : arguments.length using Nat.strongRecOn generalizing c arguments with
  | _ n ih =>
    subst hn
    by_cases hprompt : ∃ more, arguments = noPromptOption :: more
    · obtain ⟨more, rfl⟩ := hprompt
      obtain ⟨blocks, rest, hadmits, rfl, hstuck⟩ :=
        ih more.length (by simp) { c with noPrompt := true } more rfl
      exact ⟨.noPrompt :: blocks, rest, Choice.admits_noPrompt_iff.mpr hadmits, rfl,
        Choice.after_noPrompt ▸ hstuck⟩
    by_cases hlevel : ∃ text more, arguments = logLevelOption :: text :: more ∧
        c.verbosity? = none ∧ ∃ v : Verbosity, v.SpelledBy text
    · obtain ⟨text, more, rfl, hnone, v, spelled⟩ := hlevel
      obtain ⟨blocks, rest, hadmits, rfl, hstuck⟩ :=
        ih more.length (by simp) { c with verbosity? := some v } more rfl
      exact ⟨.level text v spelled :: blocks, rest,
        Choice.admits_level_iff.mpr ⟨hnone, hadmits⟩, rfl, Choice.after_level hnone ▸ hstuck⟩
    · refine ⟨[], arguments, c.admits_nil, rfl, c.after_nil.symm ▸ ⟨?_, ?_⟩⟩
      · exact fun more heq => hprompt ⟨more, heq⟩
      · intro text more heq
        by_contra hboth
        obtain ⟨hnone, hspelled⟩ := not_or.mp hboth
        exact hlevel ⟨text, more, heq, not_not.mp hnone, not_forall_not.mp hspelled⟩

/-! ### All arguments -/

namespace Settings

variable (x : Settings)

/-- The arguments of the blocks are read as the blocks, whatever follows them. -/
lemma read_append (rest : List String) :
    grammar.read (x.arguments ++ rest) =
      grammar.readOptions (grammar.start.after x.blocks) false rest :=
  readOptions_blocks (c := grammar.start) x.once rest

lemma verbosity?_after_start : (grammar.start.after x.blocks).verbosity? = x.verbosity? := rfl

lemma ofChoice_after_start : ofChoice (grammar.start.after x.blocks) = x.config := by
  rw [ofChoice, verbosity?_after_start]
  rfl

end Settings

/-- All arguments are those of some blocks, and what stands after them decides what they come to. -/
theorem exists_settings (arguments : List String) :
    ∃ (x : Settings) (rest : List String), arguments = x.arguments ++ rest ∧
      Concludes (grammar.start.after x.blocks) rest (grammar.read arguments) := by
  obtain ⟨blocks, rest, hadmits, rfl, hstuck⟩ := exists_blocks grammar.start arguments
  refine ⟨⟨blocks, hadmits⟩, rest, rfl, ?_⟩
  have hread := Settings.read_append ⟨blocks, hadmits⟩ rest
  exact hread ▸ hstuck.concludes

variable {arguments : List String}

lemma ofArguments_eq_run_iff {c : Config} :
    ofArguments arguments = .run c ↔ ∃ choice, grammar.read arguments = .run choice ∧
      ofChoice choice = c := by
  rw [ofArguments]
  cases grammar.read arguments <;> simp

lemma ofArguments_eq_help_iff :
    ofArguments arguments = .help ↔ grammar.read arguments = .help := by
  rw [ofArguments]
  cases grammar.read arguments <;> simp

lemma ofArguments_eq_refused_iff {r : Refusal} :
    ofArguments arguments = .refused r ↔ grammar.read arguments = .refused r := by
  rw [ofArguments]
  cases grammar.read arguments <;> simp

/-- Arguments configure the interpreter if they are those of some blocks, and perhaps two hyphens.
-/
theorem ofArguments_eq_run_iff_givenBy {c : Config} :
    ofArguments arguments = .run c ↔ ∃ x : Settings, x.GivenBy arguments ∧ c = x.config := by
  rw [ofArguments_eq_run_iff]
  constructor
  · rintro ⟨choice, hread, rfl⟩
    obtain ⟨x, rest, rfl, hconcludes⟩ := exists_settings arguments
    rw [hread] at hconcludes
    cases hconcludes with
    | run ended =>
      refine ⟨x, ended.imp ?_ ?_, x.ofChoice_after_start⟩
      · rintro rfl
        exact List.append_nil _
      · rintro rfl
        rfl
  · rintro ⟨x, rfl | rfl, rfl⟩
    · have hread := x.read_append []
      rw [List.append_nil] at hread
      exact ⟨_, hread, x.ofChoice_after_start⟩
    · exact ⟨_, x.read_append ["--"], x.ofChoice_after_start⟩

/-- Requests for help are read one after the other. -/
lemma readOptions_asking {c : Choice} {asking : List String} (hsome : asking ≠ [])
    (hasks : ∀ argument ∈ asking, argument = "--help" ∨ argument = "help") (help : Bool)
    (rest : List String) :
    grammar.readOptions c help (asking ++ rest) = grammar.readOptions c true rest := by
  induction asking generalizing help with
  | nil => exact absurd rfl hsome
  | cons argument asking ih =>
    obtain ⟨hhelp, hasks⟩ := List.forall_mem_cons.mp hasks
    rw [List.cons_append, Grammar.readOptions_cons_of_asksHelp (asksHelp_iff.mpr hhelp)]
    cases asking with
    | nil => rfl
    | cons next asking => exact ih (List.cons_ne_nil next asking) hasks true

/-- Arguments ask for help if requests for it follow some blocks, and perhaps two hyphens follow. -/
theorem ofArguments_eq_help_iff_askHelp : ofArguments arguments = .help ↔ AskHelp arguments := by
  rw [ofArguments_eq_help_iff]
  constructor
  · intro hread
    obtain ⟨x, rest, rfl, hconcludes⟩ := exists_settings arguments
    rw [hread] at hconcludes
    cases hconcludes with
    | help some asks ended =>
      refine ⟨x, _, some, asks, ended.imp ?_ ?_⟩
      · rintro rfl
        rfl
      · rintro rfl
        rw [List.append_assoc]
  · rintro ⟨x, asking, some, asks, rfl | rfl⟩
    · rw [x.read_append]
      have hread := readOptions_asking (c := grammar.start.after x.blocks) some asks false []
      rw [List.append_nil] at hread
      exact hread
    · rw [List.append_assoc, x.read_append, readOptions_asking some asks]
      rfl

/-- The value of an option is missing if the option follows some blocks and is the last argument. -/
theorem ofArguments_eq_missing_iff {option : String} :
    ofArguments arguments = .refused (.valueMissing option) ↔
      option = logLevelOption ∧ ∃ x : Settings, arguments = x.arguments ++ [logLevelOption] := by
  rw [ofArguments_eq_refused_iff]
  constructor
  · intro hread
    obtain ⟨x, rest, rfl, hconcludes⟩ := exists_settings arguments
    rw [hread] at hconcludes
    cases hconcludes with
    | missing => exact ⟨rfl, x, rfl⟩
    | refused final => exact absurd rfl (final option)
  · rintro ⟨rfl, x, rfl⟩
    rw [x.read_append]
    exact readsAsOption_logLevel.readOptions_missing option?_logLevel

/-- Arguments configure the interpreter if and only if they are those of some blocks, of which at
most one says which records are kept, and perhaps two hyphens; and then they amount to what the
blocks say.  They ask for help if and only if requests for it stand after such blocks, and perhaps
two hyphens.  All others are refused.  The value of an option is missing if and only if the option
stands right after such blocks and nothing follows it; any other refusal is one for all longer
lists of arguments, and for the same reason.  What follows the option is its value, whatever it
looks like, and is refused as such if it spells no choice or is a second one. -/
theorem ofArguments_settings (arguments : List String) :
    (∀ c, ofArguments arguments = .run c ↔ ∃ x : Settings, x.GivenBy arguments ∧ c = x.config) ∧
    (ofArguments arguments = .help ↔ AskHelp arguments) ∧
    ((∀ x : Settings, ¬ x.GivenBy arguments) → ¬ AskHelp arguments →
      ∃ r, ofArguments arguments = .refused r) ∧
    (∀ option, ofArguments arguments = .refused (.valueMissing option) ↔
      option = logLevelOption ∧ ∃ x : Settings, arguments = x.arguments ++ [logLevelOption]) ∧
    (∀ r, ofArguments arguments = .refused r → (∀ option, r ≠ .valueMissing option) →
      ∀ more, ofArguments (arguments ++ more) = .refused r) ∧
    ∀ (x : Settings) (text : String) (more : List String),
      arguments = x.arguments ++ logLevelOption :: text :: more →
      (x.verbosity? ≠ none ∨ ∀ v : Verbosity, ¬ v.SpelledBy text) →
      ofArguments arguments = .refused (.valueRefused logLevelOption text
        (if x.verbosity? = none then "unknown log level: " ++ text
          else "duplicate values provided")) := by
  refine ⟨fun c => ofArguments_eq_run_iff_givenBy, ofArguments_eq_help_iff_askHelp, ?_,
    fun option => ofArguments_eq_missing_iff, ?_, ?_⟩
  · intro hgiven hasks
    cases h : ofArguments arguments with
    | run c =>
      obtain ⟨x, hx, -⟩ := ofArguments_eq_run_iff_givenBy.mp h
      exact absurd hx (hgiven x)
    | help => exact absurd (ofArguments_eq_help_iff_askHelp.mp h) hasks
    | refused r => exact ⟨r, rfl⟩
  · intro r h hr more
    rw [ofArguments_eq_refused_iff] at h ⊢
    exact Grammar.readOptions_append_of_refused h hr more
  · rintro x text more rfl hvalue
    rw [ofArguments_eq_refused_iff, x.read_append]
    exact readOptions_value_refused more hvalue

/-- A request for help is none where a value is due, and then no more arguments can help; letters in
upper case and hyphens at the end are taken. -/
theorem ofArguments_settings_help_as_value :
    let refused := ["--no-prompt", "--log-level", "help"]
    let r : Refusal := .valueRefused "--log-level" "help" "unknown log level: help"
    ofArguments ["--log-level", "DeBuG", "--no-prompt", "--"] = .run ⟨true, .upTo .debug⟩ ∧
      ofArguments ["--no-prompt", "help", "--help"] = .help ∧
      ofArguments refused = .refused r ∧ ∀ more, ofArguments (refused ++ more) = .refused r := by
  intro refused r
  have hspelled : (Verbosity.upTo .debug).SpelledBy "DeBuG" :=
    Verbosity.ofName?_eq_some_iff.mp rfl
  have hunknown : Verbosity.ofName? "help" = none := rfl
  have hnone (v : Verbosity) : ¬ v.SpelledBy "help" := by
    rw [← Verbosity.ofName?_eq_some_iff, hunknown]
    exact (Option.some_ne_none v).symm
  let debugging : Settings := ⟨[.level "DeBuG" (.upTo .debug) hspelled, .noPrompt], le_rfl⟩
  let quiet : Settings := ⟨[.noPrompt], by decide⟩
  obtain ⟨-, -, -, -, hfinal, hvalue⟩ := ofArguments_settings refused
  have hrefused : ofArguments refused = .refused r :=
    hvalue quiet "help" [] rfl (Or.inr hnone)
  refine ⟨?_, ?_, hrefused, hfinal r hrefused fun _ => Refusal.noConfusion⟩
  · exact ((ofArguments_settings _).1 _).mpr ⟨debugging, Or.inr rfl, rfl⟩
  · exact (ofArguments_settings _).2.1.mpr
      ⟨quiet, ["help", "--help"], by decide, by decide, Or.inl rfl⟩

end Config

end CommandShell
