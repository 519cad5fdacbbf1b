import CommandShell.Tool.Work

/-!
# Options of tools

Options stand among the arguments of a tool: letters after a dash, or words after two, some of them
with a value. A word may be cut short as long as it is clear which one is meant. Two dashes alone
end the options.
-/

namespace CommandShell.Tool

/-- Whether an option has a value. -/
inductive Arity where
  | none | optional | required
deriving DecidableEq

/-- An option that a tool knows. -/
structure Switch where
  /-- Its letter, or nothing. -/
  short : String
  /-- Its word, or nothing. -/
  long : String
  /-- Whether it has a value. -/
  arity : Arity
deriving DecidableEq

/-- An option that was given: its letter or, if it has none, its word, and its value. -/
structure Given where
  /-- Which option it is. -/
  key : String
  /-- Its value. -/
  value : Option Bytes

namespace Switch

/-- What an option is known by. -/
def key (s : Switch) : String :=
  if s.short = "" then s.long else s.short

/-- An option without a value. -/
def flag (short long : String) : Switch := ⟨short, long, .none⟩

/-- An option with a value. -/
def valued (short long : String) : Switch := ⟨short, long, .required⟩

/-- Options without a value that have no word, given by their letters. -/
def letters (all : String) : List Switch :=
  all.toList.map fun c => ⟨String.singleton c, "", .none⟩

/-- The options that every tool has. -/
def common : List Switch :=
  [flag "" "help", flag "" "version"]

end Switch

namespace Options

/-- What was found among arguments. -/
structure Found where
  /-- The options, in order. -/
  given : List Given
  /-- The other arguments. -/
  operands : List Bytes

/-- Adds an option at the front. -/
def Found.add (f : Found) (key : String) (value : Option Bytes) : Found :=
  { f with given := ⟨key, value⟩ :: f.given }

/-- The option of a word, or what is wrong with the word. -/
def long? (switches : List Switch) (word : Bytes) : Except Bytes Switch :=
  let known := switches.filter fun s => s.long ≠ ""
  match known.find? fun s => utf8 s.long = word with
  | some s => .ok s
  | none =>
    match known.filter fun s => word.isPrefixOf (utf8 s.long) with
    | [] => .error (utf8 "unrecognized option '--" ++ word ++ utf8 "'")
    | s :: rest =>
      if rest.all fun t => t.key = s.key ∧ t.arity = s.arity then .ok s
      else
        .error (utf8 "option '--" ++ word ++ utf8 "' is ambiguous; possibilities:" ++
          (s :: rest).flatMap fun t => utf8 (" '--" ++ t.long ++ "'"))

/-- Takes options from arguments. If operands end the options, the rest is left as it is. -/
def take (switches : List Switch) (permuting : Bool) :
    Nat → List Bytes → Except Bytes Found
  | 0, args => .ok ⟨[], args⟩
  | fuel + 1, args =>
    match args with
    | [] => .ok ⟨[], []⟩
    | [0x2D, 0x2D] :: rest => .ok ⟨[], rest⟩
    | (0x2D :: 0x2D :: text) :: rest =>
      let word := text.takeWhile (· ≠ 0x3D)
      let value := if word.length < text.length then some (text.drop (word.length + 1)) else none
      match long? switches word with
      | .error e => .error (if value.isSome ∧ (utf8 "unrecognized").isPrefixOf e then
          utf8 "unrecognized option '--" ++ text ++ utf8 "'" else e)
      | .ok s =>
        match s.arity, value with
        | .none, some _ =>
          .error (utf8 ("option '--" ++ s.long ++ "' doesn't allow an argument"))
        | .required, none =>
          match rest with
          | [] => .error (utf8 ("option '--" ++ s.long ++ "' requires an argument"))
          | v :: rest => (take switches permuting fuel rest).map (·.add s.key (some v))
        | _, _ => (take switches permuting fuel rest).map (·.add s.key value)
    | (0x2D :: b :: letters) :: rest =>
      match switches.find? fun s => utf8 s.short = [b] with
      | none => .error (utf8 "invalid option -- '" ++ [b] ++ utf8 "'")
      | some s =>
        match s.arity, letters with
        | .none, [] => (take switches permuting fuel rest).map (·.add s.key none)
        | .none, _ =>
          (take switches permuting fuel ((0x2D :: letters) :: rest)).map (·.add s.key none)
        | .optional, _ =>
          (take switches permuting fuel rest).map
            (·.add s.key (if letters = [] then none else some letters))
        | .required, [] =>
          match rest with
          | [] => .error (utf8 "option requires an argument -- '" ++ [b] ++ utf8 "'")
          | v :: rest => (take switches permuting fuel rest).map (·.add s.key (some v))
        | .required, _ => (take switches permuting fuel rest).map (·.add s.key (some letters))
    | word :: rest =>
      if permuting then
        (take switches permuting fuel rest).map fun f => { f with operands := word :: f.operands }
      else .ok ⟨[], args⟩

/-- Takes options from arguments. -/
def ofArguments (switches : List Switch) (permuting : Bool) (args : List Bytes) :
    Except Bytes Found :=
  take switches permuting (sumOf (args.map (·.length + 1)) + 1) args

/-- Takes options from the arguments of a tool. After what is wrong with them was said, something
else may be said before the work ends. -/
def readOr (otherwise : Work Found) (switches : List Switch) (permuting : Bool)
    (args : List Bytes) : Work Found := do
  let strict := (← Work.setting? "POSIXLY_CORRECT").isSome
  match ofArguments (switches ++ Switch.common) (permuting && !strict) args with
  | .ok f =>
    if f.given.any fun g => g.key = "help" ∨ g.key = "version" then Work.exit 0
    return f
  | .error e =>
    Work.emit ((← get).name ++ utf8 ": " ++ e ++ [0x0A])
    otherwise

/-- Takes options from the arguments of a tool; what is wrong with them ends it with a status. -/
def read (switches : List Switch) (permuting : Bool) (status : Nat) (args : List Bytes) :
    Work Found :=
  readOr (Work.refer status) switches permuting args

/-- Which of some words a value is short for. Words of one group mean the same and are known by the
first of them. -/
def choice (option : String) (groups : List (List String)) (value : Bytes) : Work String := do
  let named := groups.filter fun words => words.any fun w => utf8 w = value
  let short := groups.filter fun words => words.any fun w => value.isPrefixOf (utf8 w)
  match if named = [] then short else named with
  | [words] => return words.headD ""
  | found =>
    let what := if found = [] then "invalid argument " else "ambiguous argument "
    Work.say (utf8 what ++ Quote.shell value ++ utf8 (" for '" ++ option ++ "'"))
    Work.emit (utf8 "Valid arguments are:\n")
    for words in groups do
      Work.emit (utf8 ("  - " ++ ", ".intercalate (words.map fun w => "'" ++ w ++ "'") ++ "\n"))
    Work.refer 1

namespace Found

/-- Whether an option was given. -/
def has (f : Found) (key : String) : Bool :=
  f.given.any (·.key = key)

/-- The value of the last time that an option was given. -/
def value? (f : Found) (key : String) : Option Bytes :=
  (f.given.reverse.find? (·.key = key)).bind (·.value)

/-- The last of some options that was given. -/
def last? (f : Found) (keys : List String) : Option String :=
  (f.given.reverse.find? fun g => keys.contains g.key).map (·.key)

end Found

end Options

end CommandShell.Tool
