import CommandShell.Builtin
import CommandShell.Proofs.Forms
import CommandShell.Proofs.Room
import Mathlib

/-!
# Arguments of commands that take paths

Arguments are read from left to right, and what has been read so far says how the next one is taken:
whether help was asked for, whether the manual was, and whether there may still be options.  All of
this comes to a rule about the arguments as a whole (`PathRequest.byShape`).  What stands in front
of the first argument that is neither `--man` nor a request for help decides what the command does,
and all that follows are paths, whatever it looks like; only an option in that place, or `--man`
after a request for help, is refused.

What is left over for the files is what the rule leaves over: in all other cases a command that
takes paths answers with a text (`PathCommand.run_eq_byShape`).
-/

namespace CommandShell

open Sink (AcceptsAll)

/-! ### The rule -/

namespace PathRequest

open Grammar (asksHelp looksLikeOption)

/-- Whether an argument is the option or asks for help. -/
def isLeading (argument : String) : Bool :=
  argument = manualOption || asksHelp argument

/-- Whether an argument is taken for an option that there is not, if it is the first of its kind. -/
def isStray (argument : String) : Bool :=
  looksLikeOption argument && argument ≠ "--"

/-- Whether the manual is asked for after help was. -/
def manualAfterHelp (leading : List String) : Bool :=
  (leading.dropWhile fun argument => !asksHelp argument).contains manualOption

/-- What arguments amount to, given the longest beginning of them that is made of `--man`, `--help`
and `help`, and what follows it. -/
def ofParts (leading later : List String) : Request PathRequest :=
  let stray := later.head?.filter isStray
  if manualAfterHelp leading || (stray.isSome && leading.any asksHelp) then .refused .afterHelp
  else
    match stray with
    | some argument => .refused (.unrecognized argument)
    | none =>
      if leading.any asksHelp then .help
      else .run ⟨leading.contains manualOption,
        if later.head? = some "--" then later.tail else later⟩

/-- What arguments amount to. -/
def byShape (arguments : List String) : Request PathRequest :=
  ofParts (arguments.takeWhile isLeading) (arguments.dropWhile isLeading)

/-! ### Reading by the rule -/

/-- Operands are paths. -/
lemma readOperands_eq (manual help : Bool) (paths rest : List String) :
    grammar.readOperands ⟨manual, paths⟩ help rest =
      Grammar.conclude ⟨manual, paths ++ rest⟩ help := by
  induction rest generalizing paths with
  | nil => rw [Grammar.readOperands, List.append_nil]
  | cons path rest ih =>
    rw [Grammar.readOperands]
    simp only [grammar] at ih ⊢
    rw [ih, List.append_assoc, List.singleton_append]

/-- How the next argument is read. -/
lemma readOptions_cons (request : PathRequest) (help : Bool) (argument : String)
    (rest : List String) :
    grammar.readOptions request help (argument :: rest) =
      if asksHelp argument then grammar.readOptions request true rest
      else if argument = "--" then grammar.readOperands request help rest
      else if looksLikeOption argument then
        if help then .refused .afterHelp
        else if argument = manualOption then
          grammar.readOptions { request with manual := true } help rest
        else .refused (.unrecognized argument)
      else grammar.readOperands request help (argument :: rest) := by
  by_cases hmanual : argument = manualOption
  · have hoption : grammar.option? argument =
        some (.switch fun r => { r with manual := true }) := by simp [grammar, hmanual]
    rw [Grammar.readOptions_cons]
    simp only [hoption, if_pos hmanual]
  · have hoption : grammar.option? argument = none := by simp [grammar, hmanual]
    rw [Grammar.readOptions_cons]
    simp only [hoption, if_neg hmanual]

/-- After a request for help the option may not come, and before it counts what comes later. -/
lemma manualAfterHelp_append (before more : List String) :
    manualAfterHelp (before ++ more) =
      if before.any asksHelp then manualAfterHelp before || more.contains manualOption
      else manualAfterHelp more := by
  induction before with
  | nil => rfl
  | cons argument before ih =>
    simp only [manualAfterHelp] at ih
    cases hhelp : asksHelp argument with
    | true => simp [manualAfterHelp, hhelp, Bool.or_assoc]
    | false => simpa [manualAfterHelp, hhelp] using ih

/-- From an argument on that is neither the option nor a request for help there are no more
options. -/
lemma readOptions_cons_of_not_leading {before : List String}
    (hbefore : manualAfterHelp before = false) {argument : String} (rest : List String)
    (hhelp : ¬ asksHelp argument = true) (hmanual : argument ≠ manualOption) :
    grammar.readOptions ⟨before.contains manualOption, []⟩ (before.any asksHelp)
      (argument :: rest) = ofParts before (argument :: rest) := by
  rw [readOptions_cons, if_neg hhelp]
  by_cases hdash : argument = "--"
  · subst hdash
    have hstray : isStray "--" = false := by decide
    rw [if_pos rfl, readOperands_eq]
    simp [ofParts, hbefore, hstray, Grammar.conclude, Option.filter_some]
  rw [if_neg hdash]
  by_cases hlooks : looksLikeOption argument = true
  · have hstray : isStray argument = true := by simp [isStray, hlooks, hdash]
    rw [if_pos hlooks, if_neg hmanual]
    cases hany : before.any asksHelp <;>
      simp [ofParts, hbefore, hstray, hany, Option.filter_some]
  · have hstray : isStray argument = false := by simp [isStray, hlooks]
    rw [if_neg hlooks, readOperands_eq]
    simp [ofParts, hbefore, hstray, hdash, Grammar.conclude, Option.filter_some]

/-- Reading goes on by the rule from any beginning on that is not refused. -/
lemma readOptions_eq_ofParts (before : List String) (hbefore : manualAfterHelp before = false)
    (rest : List String) :
    grammar.readOptions ⟨before.contains manualOption, []⟩ (before.any asksHelp) rest =
      ofParts (before ++ rest.takeWhile isLeading) (rest.dropWhile isLeading) := by
  induction rest generalizing before with
  | nil => simp [Grammar.readOptions, Grammar.conclude, ofParts, hbefore]
  | cons argument rest ih =>
    -- An argument that belongs to the beginning is put at its end.
    have hrest := ih (before ++ [argument])
    rw [List.append_assoc, List.singleton_append, List.any_append] at hrest
    by_cases hhelp : asksHelp argument = true
    · have hleading : isLeading argument = true := by rw [isLeading, hhelp, Bool.or_true]
      have hne : argument ≠ manualOption := by
        rintro rfl
        exact absurd hhelp (by decide)
      have hcontains : (before ++ [argument]).contains manualOption =
          before.contains manualOption := by simp [hne.symm]
      have hnext : manualAfterHelp (before ++ [argument]) = false := by
        rw [manualAfterHelp_append, hbefore]
        simp [manualAfterHelp, hhelp, hne.symm]
      rw [readOptions_cons, if_pos hhelp, List.takeWhile_cons_of_pos hleading,
        List.dropWhile_cons_of_pos hleading, ← hrest hnext, hcontains]
      simp [hhelp]
    by_cases hmanual : argument = manualOption
    · subst hmanual
      have hleading : isLeading manualOption = true := by decide
      have hlooks : looksLikeOption manualOption = true := by decide
      rw [readOptions_cons, if_neg hhelp, if_neg (by decide), if_pos hlooks, if_pos rfl,
        List.takeWhile_cons_of_pos hleading, List.dropWhile_cons_of_pos hleading]
      cases hany : before.any asksHelp with
      | true =>
        have hlate :
            manualAfterHelp (before ++ manualOption :: rest.takeWhile isLeading) = true := by
          rw [manualAfterHelp_append, hany]
          simp
        simp [ofParts, hlate]
      | false =>
        have hnext : manualAfterHelp (before ++ [manualOption]) = false := by
          rw [manualAfterHelp_append, hany, if_neg Bool.false_ne_true]
          decide
        have hcontains : (before ++ [manualOption]).contains manualOption = true := by simp
        rw [if_neg Bool.false_ne_true, ← hrest hnext, hcontains, hany]
        simp [hhelp]
    · have hleading : ¬ isLeading argument = true := by simp [isLeading, hhelp, hmanual]
      rw [List.takeWhile_cons_of_neg hleading, List.dropWhile_cons_of_neg hleading,
        List.append_nil]
      exact readOptions_cons_of_not_leading hbefore rest hhelp hmanual

/-- Arguments are read by the rule. -/
theorem read_eq_byShape (arguments : List String) : grammar.read arguments = byShape arguments :=
  readOptions_eq_ofParts [] rfl arguments

end PathRequest

/-! ### Printing texts -/

namespace Session

variable {σ τ ℓ : Type} [Sink σ] [Launcher ℓ]

/-- Whether or not the output accepts them, printing texts is done to the output only. -/
lemma untouched_printTexts (v : Verdict) (texts : List String) (s : Session σ τ ℓ) :
    Untouched s ((Handler.printTexts (.done v) texts).run s).2 := by
  induction texts generalizing s with
  | nil => exact .refl s
  | cons text rest ih =>
    have hprint : Untouched s (s.print (utf8 text)).2 := .print s _
    rw [Handler.printTexts, Handler.run_print]
    generalize s.print (utf8 text) = printed at hprint ⊢
    obtain ⟨failure | e, s'⟩ := printed
    · exact hprint.trans (ih s')
    · exact hprint

/-- An output that accepts everything gets all texts. -/
lemma run_printTexts (v : Verdict) (texts : List String) {s : Session σ τ ℓ}
    (h : AcceptsAll s.out) :
    ((Handler.printTexts (.done v) texts).run s).1 = v ∧
      ((Handler.printTexts (.done v) texts).run s).2.printed = s.printed ++ texts.flatMap utf8 := by
  induction texts generalizing s with
  | nil => exact ⟨rfl, (List.append_nil _).symm⟩
  | cons text rest ih =>
    obtain ⟨hcount, hfailure, hsink⟩ := h.writeAll_eq (utf8 text)
    obtain ⟨hprinted, hout⟩ := s.printed_print (utf8 text)
    have hanswer : (s.print (utf8 text)).1 = none := hfailure
    rw [hcount, List.take_length] at hprinted
    rw [← hout] at hsink
    rw [Handler.printTexts, Handler.run_print]
    generalize s.print (utf8 text) = answered at hanswer hprinted hsink ⊢
    obtain ⟨_, s'⟩ := answered
    cases hanswer
    obtain ⟨hverdict, hrest⟩ := ih hsink
    refine ⟨hverdict, hrest.trans ?_⟩
    rw [hprinted, List.flatMap_cons, List.append_assoc]

end Session

/-! ### What the commands do -/

/-- The commands that take paths. -/
inductive PathCommand where
  | create
  | print

namespace PathCommand

/-- The builtin command. -/
def builtin : PathCommand → Builtin
  | create => .create
  | print => .print

/-- Its texts. -/
def manual : PathCommand → Manual
  | create => .create
  | print => .print

/-- What it does with paths. -/
def act : PathCommand → List String → Handler
  | create => Handler.createFiles
  | print => Handler.printFiles

/-- A text on a line of its own, without the white space at its end. -/
def lineOf (text : String) : String :=
  .ofList (Text.trimEnd text.toList) ++ "\n"

/-- The text with which a command answers its arguments, unless they tell it to do something with
paths. -/
def reply? (c : PathCommand) (calledAs : String) : Request PathRequest → Option String
  | .help => some (lineOf (c.manual.helpText calledAs))
  | .refused r => some (lineOf r.message)
  | .run request =>
    if request.manual then some c.manual.text
    else if request.paths = [] then some c.manual.usage
    else none

variable (c : PathCommand) (name : Bytes) (arguments : List String)

/-- Both commands read their arguments alike. -/
lemma handler_eq (args : ArgVector) :
    c.builtin.handler args = Handler.withPaths c.manual c.act args := by
  cases c <;> rfl

/-- A command that answers its arguments prints the answer and does nothing else. -/
lemma handler_of_reply?_eq_some {text : String}
    (h : c.reply? (Text.display name) (PathRequest.byShape arguments) = some text) :
    ∃ texts : List String, texts.flatMap utf8 = utf8 text ∧
      c.builtin.handler (name :: arguments.map utf8) =
        Handler.printTexts (.done (.ok .proceed)) texts := by
  have hline (line : String) :
      [String.ofList (Text.trimEnd line.toList), "\n"].flatMap utf8 = utf8 (lineOf line) := by
    simp [lineOf, utf8_eq_flatMap]
  rw [handler_eq, Handler.withPaths]
  simp only [ArgVector.texts_map_utf8, PathRequest.read_eq_byShape]
  cases hshape : PathRequest.byShape arguments with
  | help =>
    rw [hshape] at h
    obtain rfl := Option.some.inj h
    exact ⟨_, hline _, rfl⟩
  | refused r =>
    rw [hshape] at h
    obtain rfl := Option.some.inj h
    exact ⟨_, hline _, rfl⟩
  | run request =>
    rw [hshape, reply?] at h
    simp only
    split at h
    · next hmanual =>
      obtain rfl := Option.some.inj h
      rw [if_pos hmanual]
      exact ⟨[c.manual.text], List.flatMap_singleton _ _, rfl⟩
    · next hmanual =>
      rw [if_neg hmanual]
      split at h
      · next hpaths =>
        obtain rfl := Option.some.inj h
        rw [if_pos hpaths]
        exact ⟨[c.manual.usage], List.flatMap_singleton _ _, rfl⟩
      · cases h

/-- A command that is told to do something with paths does that. -/
lemma handler_of_paths {request : PathRequest}
    (h : PathRequest.byShape arguments = .run request) (hmanual : request.manual = false)
    (hpaths : request.paths ≠ []) :
    c.builtin.handler (name :: arguments.map utf8) = c.act request.paths := by
  rw [handler_eq, Handler.withPaths]
  simp only [ArgVector.texts_map_utf8, PathRequest.read_eq_byShape, h, hmanual, hpaths,
    Bool.false_eq_true, if_false]

variable {σ τ ℓ : Type} [Sink σ] [Launcher ℓ]

/-- What a command that takes paths does with arguments that are texts is decided by the longest
beginning of them that is made of `--man`, `--help` and `help`, and by what follows it.  Arguments
that are refused or ask for help, for the manual or for nothing are answered with a text, and
neither the launcher nor the files have to do with that; an output that accepts everything gets the
text, which is a line without white space at its end where it is the help text or says why the
arguments were refused.  In all other cases the command does with the paths what it is for: these
are all arguments after the beginning, whatever they look like, without the first one if that is
`--`. -/
theorem run_eq_byShape (s : Session σ τ ℓ) :
    let args := name :: arguments.map utf8
    let request := PathRequest.byShape arguments
    PathRequest.grammar.read arguments = request ∧
    (∀ text, c.reply? (Text.display name) request = some text →
      (c.builtin.run args s).2.launcher = s.launcher ∧
      (c.builtin.run args s).2.files = s.files ∧
      (AcceptsAll s.out → (c.builtin.run args s).1 = .ok .proceed ∧
        (c.builtin.run args s).2.printed = s.printed ++ utf8 text)) ∧
    ∀ r, request = .run r → r.manual = false → r.paths ≠ [] →
      c.builtin.run args s = (c.act r.paths).run s := by
  intro args request
  refine ⟨PathRequest.read_eq_byShape arguments, fun text htext => ?_,
    fun r hr hmanual hpaths => ?_⟩
  · obtain ⟨texts, hbytes, hhandler⟩ := c.handler_of_reply?_eq_some name arguments htext
    rw [Builtin.run, hhandler, ← hbytes]
    have huntouched := s.untouched_printTexts (.ok .proceed) texts
    exact ⟨huntouched.launcher, huntouched.files, Session.run_printTexts (.ok .proceed) texts⟩
  · rw [Builtin.run, c.handler_of_paths name arguments hr hmanual hpaths]

/-- The option after a request for help is refused, in a line of its own; after two hyphens the
option and two more hyphens are paths, and there is something to do. -/
theorem run_eq_byShape_dashes :
    let s := Session.start LimitedSink.unlimited LimitedSink.unlimited (⟨[]⟩ : ScriptedLauncher)
      ⟨[], [], [], []⟩ .off
    let refused := ["--man", "help", "--man", "x"]
    let given := ["--", "--man", "--"]
    PathRequest.byShape refused = .refused .afterHelp ∧
      (create.builtin.run (utf8 "cr" :: refused.map utf8) s).2.printed =
        utf8 (lineOf Refusal.afterHelp.message) ∧
      PathRequest.byShape given = .run ⟨false, ["--man", "--"]⟩ ∧
      print.builtin.run (utf8 "op" :: given.map utf8) s =
        (Handler.printFiles ["--man", "--"]).run s := by
  intro s refused given
  have hrefused : PathRequest.byShape refused = .refused .afterHelp := by decide
  have hgiven : PathRequest.byShape given = .run ⟨false, ["--man", "--"]⟩ := by decide
  have hreply : create.reply? (Text.display (utf8 "cr")) (PathRequest.byShape refused) =
      some (lineOf Refusal.afterHelp.message) := by rw [hrefused, reply?]
  obtain ⟨-, hanswer, -⟩ := create.run_eq_byShape (utf8 "cr") refused s
  obtain ⟨-, -, hact⟩ := print.run_eq_byShape (utf8 "op") given s
  exact ⟨hrefused, ((hanswer _ hreply).2.2 LimitedSink.acceptsAll_unlimited).2, hgiven,
    hact _ hgiven rfl (List.cons_ne_nil _ _)⟩

end PathCommand

end CommandShell
