import CommandShell.Tool.Options

/-!
# Putting arguments in order

The options among some arguments are written one by one, each with its value, and then what is not
an option. Which options there are is told beforehand, with letters and with words. What comes out
can be read without knowing which options have values.
-/

namespace CommandShell.Tool

open Work

namespace Arrangement

/-! ### Reading -/

/-- What is done with arguments that are not options. -/
inductive Order where
  /-- They go behind all options. -/
  | permuting
  /-- They end the options. -/
  | ending
  /-- They stay where they are. -/
  | keeping
deriving DecidableEq

/-- Which options there are. -/
structure Grammar where
  /-- The options with letters, each with whether it has a value. -/
  letters : List (UInt8 × Arity)
  /-- The options with words. -/
  words : List (Bytes × Arity)
  /-- What is done with other arguments. -/
  order : Order
  /-- Words may follow a single dash. -/
  single : Bool

/-- Something that was found among arguments. -/
inductive Item where
  /-- An option with a letter, and its value if it can have one. -/
  | letter (b : UInt8) (value : Option Bytes)
  /-- An option with a word, and its value if it can have one. -/
  | word (name : Bytes) (value : Option Bytes)
  /-- An argument that is no option and stays where it is. -/
  | operand (text : Bytes)
  /-- Something that is wrong. -/
  | wrong (complaint : Bytes)

/-- The letters that a text tells, each followed by a colon if it has a value, and by two if it may
have one. -/
def lettersOf : Bytes → List (UInt8 × Arity)
  | [] => []
  | b :: 0x3A :: 0x3A :: rest => (b, .optional) :: lettersOf rest
  | b :: 0x3A :: rest => (b, .required) :: lettersOf rest
  | b :: rest => (b, .none) :: lettersOf rest

/-- The words that a text tells, with a comma or a blank between them. -/
def wordsOf (text : Bytes) : List Bytes :=
  ((text.map fun b => if (utf8 " \t\n").contains b then (0x2C : UInt8) else b).splitOn 0x2C).filter
    (· ≠ [])

/-- A word with whether it has a value, which colons behind it tell. -/
def wordOf (text : Bytes) : Bytes × Arity :=
  let colons := (text.reverse.takeWhile (· = 0x3A)).length
  match min colons 2 with
  | 0 => (text, .none)
  | 1 => (text.dropLast, .required)
  | _ => (text.take (text.length - 2), .optional)

/-- What a word after dashes means: the option, and what else was found. -/
inductive Meaning where
  /-- One of the words. -/
  | known (name : Bytes) (arity : Arity)
  /-- Several of the words. -/
  | ambiguous (names : List Bytes)
  /-- None. -/
  | unknown

/-- What a word means. It may be cut short. -/
def Grammar.meaning (g : Grammar) (word : Bytes) : Meaning :=
  match g.words.find? (·.1 = word) with
  | some (name, arity) => .known name arity
  | none =>
    match g.words.filter fun w => word.isPrefixOf w.1 with
    | [] => .unknown
    | first :: rest =>
      if rest.any fun w => g.single ∨ w.2 ≠ first.2 then
        .ambiguous (first.1 :: (rest.filter fun w => g.single ∨ w.2 ≠ first.2).map (·.1))
      else .known first.1 first.2

/-- A complaint about an option. -/
def about (front : String) (option : Bytes) (back : String) : Item :=
  .wrong (utf8 (front ++ "'") ++ option ++ utf8 ("'" ++ back))

/-- The option that a word after dashes is, with what is left of the other arguments, unless it may
be letters instead. -/
def Grammar.wordItem (g : Grammar) (dashes text : Bytes) (rest : List Bytes) :
    Option (Item × List Bytes) :=
  let name := text.takeWhile (· ≠ 0x3D)
  let value := if name.length < text.length then some (text.drop (name.length + 1)) else none
  match g.meaning name with
  | .ambiguous names =>
    let all := names.flatMap fun n => utf8 " '" ++ dashes ++ n ++ utf8 "'"
    some (.wrong
      (utf8 "option '" ++ dashes ++ text ++ utf8 "' is ambiguous; possibilities:" ++ all),
      rest)
  | .unknown =>
    if dashes.length = 1 ∧ g.letters.any (fun l => text.head? = some l.1) then none
    else some (about "unrecognized option " (dashes ++ text) "", rest)
  | .known name arity =>
    match arity, value, rest with
    | .none, some _, _ => some (about "option " (dashes ++ name) " doesn't allow an argument", rest)
    | .none, none, _ => some (.word name none, rest)
    | _, some v, _ => some (.word name (some v), rest)
    | .optional, none, _ => some (.word name (some []), rest)
    | .required, none, v :: rest => some (.word name (some v), rest)
    | .required, none, [] => some (about "option " (dashes ++ name) " requires an argument", [])

/-- The options that letters after a dash are, with what is left of the other arguments. -/
def Grammar.letterItems (g : Grammar) : Bytes → List Bytes → List Item × List Bytes
  | [], rest => ([], rest)
  | b :: more, rest =>
    let further := fun (item : Item) =>
      let (items, rest) := g.letterItems more rest
      (item :: items, rest)
    match g.letters.lookup b with
    | none => further (.wrong (utf8 "invalid option -- '" ++ [b] ++ utf8 "'"))
    | some .none => further (.letter b none)
    | some .optional => ([.letter b (some more)], rest)
    | some .required =>
      match more, rest with
      | [], v :: rest => ([.letter b (some v)], rest)
      | [], [] => ([.wrong (utf8 "option requires an argument -- '" ++ [b] ++ utf8 "'")], [])
      | _, _ => ([.letter b (some more)], rest)

/-- What is among arguments: options and what stays where it is, and then the rest. -/
def Grammar.read (g : Grammar) : Nat → List Bytes → List Item × List Bytes
  | 0, args => ([], args)
  | fuel + 1, args =>
    let after := fun (front : List Item) (rest : List Bytes) =>
      let (items, operands) := g.read fuel rest
      (front ++ items, operands)
    match args with
    | [] => ([], [])
    | [0x2D, 0x2D] :: rest => ([], rest)
    | (0x2D :: b :: text) :: rest =>
      let isWord := b = 0x2D || (g.single && (text ≠ [] || (g.letters.lookup b).isNone))
      let item := if b = 0x2D then g.wordItem [0x2D, 0x2D] text rest
        else if isWord then g.wordItem [0x2D] (b :: text) rest
        else none
      match item with
      | some (item, rest) => after [item] rest
      | none =>
        let (items, rest) := g.letterItems (b :: text) rest
        after items rest
    | word :: rest =>
      match g.order with
      | .ending => ([], args)
      | .keeping => after [.operand word] rest
      | .permuting =>
        let (items, operands) := g.read fuel rest
        (items, word :: operands)

/-! ### Writing -/

/-- How values and other arguments are written. -/
inductive Style where
  /-- As they are. -/
  | plain
  /-- In quotation marks, as a script reads them. -/
  | quoted
  /-- In quotation marks, for an interpreter that gives blanks and exclamation marks a meaning even
  there. -/
  | guarded

/-- A text in quotation marks. -/
def Style.shown (s : Style) (text : Bytes) : Bytes :=
  match s with
  | plain => text
  | quoted =>
    utf8 "'" ++ text.flatMap (fun b => if b = 0x27 then utf8 "'\\''" else [b]) ++ utf8 "'"
  | guarded =>
    let inner := text.flatMap fun b =>
      if b = 0x27 then utf8 "'\\''"
      else if b = 0x5C then utf8 "\\\\"
      else if b = 0x21 then utf8 "'\\!'"
      else if b = 0x0A then utf8 "\\n"
      else if (utf8 " \t\x0b\x0c\r").contains b then utf8 "'\\" ++ [b] ++ utf8 "'"
      else [b]
    utf8 "'" ++ inner ++ utf8 "'"

/-- Something that was found, as it is written. -/
def Item.shown (s : Style) : Item → Bytes
  | letter b value => utf8 " -" ++ [b] ++ valueOf value
  | word name value => utf8 " --" ++ name ++ valueOf value
  | operand text => 0x20 :: s.shown text
  | wrong _ => []
where
  /-- A value as it is written behind its option. -/
  valueOf : Option Bytes → Bytes
    | none => []
    | some v => 0x20 :: s.shown v

/-- How arguments are put in order. -/
structure Manner where
  /-- The text that tells the options with letters. -/
  letters : Bytes
  /-- The options with words. -/
  words : List (Bytes × Arity)
  /-- Words may follow a single dash. -/
  single : Bool
  /-- The name that complaints begin with. -/
  name : Bytes
  /-- Nothing is complained about. -/
  quiet : Bool
  /-- Nothing is written. -/
  checksOnly : Bool
  /-- How values are written. -/
  style : Style

/-- Puts arguments in order. -/
def arrange (m : Manner) (args : List Bytes) : Work Unit := do
  let (order, letters) : Order × Bytes := match m.letters with
    | 0x2D :: rest => (.keeping, rest)
    | 0x2B :: rest => (.ending, rest)
    | all => (.permuting, all)
  let strict := (← setting? "POSIXLY_CORRECT").isSome
  let order := if order = .permuting ∧ strict then .ending else order
  let silent := m.quiet || letters.head? = some 0x3A
  let known := (lettersOf (if letters.head? = some 0x3A then letters.tail else letters)).filter
    fun l => l.1 ≠ 0x3A ∧ l.1 ≠ 0x3B
  let g : Grammar := ⟨known, m.words, order, m.single⟩
  let (items, operands) := g.read (sumOf (args.map (·.length + 1)) + 1) args
  for item in items do
    match item with
    | .wrong complaint =>
      if !silent then emit (m.name ++ utf8 ": " ++ complaint ++ [0x0A])
      fault 1
    | _ => pure ()
  if !m.checksOnly then
    put (items.flatMap (·.shown m.style))
    put (utf8 " --")
    put (operands.flatMap fun text => 0x20 :: m.style.shown text)
    put [0x0A]

end Arrangement

/-- Writes arguments in order, the options first. -/
def getopt (args : List Bytes) : Work Unit := do
  let compatible := (← setting? "GETOPT_COMPATIBLE").isSome
  let name := (← get).name
  match args with
  | [] =>
    if compatible then putLine (utf8 " --")
    else misused 2 (utf8 "missing optstring argument")
  | first :: rest =>
    if compatible ∨ first.head? ≠ some 0x2D then
      Arrangement.arrange ⟨first.dropWhile (utf8 "-+").contains, [], false, name, false, false,
        .plain⟩ rest
    else
      let f ← Options.read [.flag "a" "alternative", .valued "l" "longoptions",
        .valued "n" "name", .valued "o" "options", .flag "q" "quiet", .flag "Q" "quiet-output",
        .valued "s" "shell", .flag "T" "test", .flag "u" "unquoted"] false 2 args
      let mut words : List (Bytes × Arity) := []
      let mut style : Arrangement.Style := .quoted
      for g in f.given do
        match g.key, g.value with
        | "l", some text =>
          for word in Arrangement.wordsOf text do
            let w := Arrangement.wordOf word
            if w.1 = [] then
              misused 2 (utf8 "empty long option after -l or --long argument")
            words := words ++ [w]
        | "s", some text =>
          if text = utf8 "sh" ∨ text = utf8 "bash" then style := .quoted
          else if text = utf8 "csh" ∨ text = utf8 "tcsh" then style := .guarded
          else misused 2 (utf8 "unknown shell after -s or --shell argument")
        | "T", _ => exit 4
        | _, _ => pure ()
      let (letters, operands) ← match f.value? "o", f.operands with
        | some letters, operands => pure (letters, operands)
        | none, letters :: operands => pure (letters, operands)
        | none, [] => misused 2 (utf8 "missing optstring argument")
      Arrangement.arrange ⟨letters, words, f.has "a", (f.value? "n").getD name, f.has "q",
        f.has "Q", if f.has "u" then .plain else style⟩ operands

end CommandShell.Tool
