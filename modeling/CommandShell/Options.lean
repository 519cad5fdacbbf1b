/-!
# Command-line options

A grammar says which options a command has and whether it takes other arguments. Arguments are
read from left to right: `--help` and `help` ask for help, an argument that begins with a hyphen
is an option, and all others are operands. From `--` on, and from the first operand on, every
argument is an operand whatever it looks like. No option may follow a request for help.
-/

namespace CommandShell

/-- Why arguments are refused. -/
inductive Refusal where
  /-- An option follows a request for help. -/
  | afterHelp
  /-- The grammar has no place for an argument. -/
  | unrecognized (argument : String)
  /-- The arguments end where the value of an option is due. -/
  | valueMissing (option : String)
  /-- An option does not take the value it is given. -/
  | valueRefused (option value reason : String)
deriving DecidableEq, Repr

/-- The wording of a refusal. -/
def Refusal.message : Refusal → String
  | .afterHelp => "Trailing arguments are not allowed after `help`."
  | .unrecognized argument => "Unrecognized argument: " ++ argument ++ "\n"
  | .valueMissing option => "No value provided for option '" ++ option ++ "'.\n"
  | .valueRefused option value reason =>
    "Error parsing option '" ++ option ++ "' with value '" ++ value ++ "': " ++ reason ++ "\n"

/-- What arguments amount to. -/
inductive Request (α : Type) where
  /-- They are what the command is to do. -/
  | run (value : α)
  /-- They ask for help. -/
  | help
  /-- They are refused. -/
  | refused (r : Refusal)
deriving DecidableEq, Repr

/-- An option: a switch stands alone, the other kind takes the next argument as its value. -/
inductive OptionKind (α : Type) where
  /-- An option without a value. -/
  | switch (set : α → α)
  /-- An option with a value, which may be refused with a reason. -/
  | value (set : α → String → Except String α)

/-- The options and operands of a command, and what they make of a value of type `α`. -/
structure Grammar (α : Type) where
  /-- The value without arguments. -/
  start : α
  /-- The options by name. -/
  option? : String → Option (OptionKind α)
  /-- What operands do, if there may be any. -/
  operand? : Option (α → String → α)

namespace Grammar

variable {α : Type}

/-- Whether an argument asks for help. -/
def asksHelp (argument : String) : Bool :=
  argument = "--help" || argument = "help"

/-- Whether an argument begins with a hyphen. -/
def looksLikeOption (argument : String) : Bool :=
  argument.toList.head? = some '-'

/-- All arguments were read. -/
def conclude (value : α) (help : Bool) : Request α :=
  if help then .help else .run value

/-- Reads arguments all of which are operands. -/
def readOperands (g : Grammar α) (value : α) (help : Bool) : List String → Request α
  | [] => conclude value help
  | argument :: rest =>
    match g.operand? with
    | some add => g.readOperands (add value argument) help rest
    | none => .refused (.unrecognized argument)

/-- Reads arguments among which there may be options. -/
def readOptions (g : Grammar α) (value : α) (help : Bool) : List String → Request α
  | [] => conclude value help
  | argument :: rest =>
    if asksHelp argument then g.readOptions value true rest
    else if argument = "--" then g.readOperands value help rest
    else if looksLikeOption argument then
      if help then .refused .afterHelp
      else
        match g.option? argument, rest with
        | none, _ => .refused (.unrecognized argument)
        | some (.switch set), rest => g.readOptions (set value) help rest
        | some (.value _), [] => .refused (.valueMissing argument)
        | some (.value set), given :: rest =>
          match set value given with
          | .ok value => g.readOptions value help rest
          | .error reason => .refused (.valueRefused argument given reason)
    else g.readOperands value help (argument :: rest)

/-- How the next argument is read. -/
theorem readOptions_cons (g : Grammar α) (value : α) (help : Bool) (argument : String)
    (rest : List String) :
    g.readOptions value help (argument :: rest) =
      if asksHelp argument then g.readOptions value true rest
      else if argument = "--" then g.readOperands value help rest
      else if looksLikeOption argument then
        if help then .refused .afterHelp
        else
          match g.option? argument, rest with
          | none, _ => .refused (.unrecognized argument)
          | some (.switch set), rest => g.readOptions (set value) help rest
          | some (.value _), [] => .refused (.valueMissing argument)
          | some (.value set), given :: rest =>
            match set value given with
            | .ok value => g.readOptions value help rest
            | .error reason => .refused (.valueRefused argument given reason)
      else g.readOperands value help (argument :: rest) :=
  readOptions.eq_def g value help (argument :: rest)

/-- Reads the arguments of a command. -/
def read (g : Grammar α) (arguments : List String) : Request α :=
  g.readOptions g.start false arguments

end Grammar

end CommandShell
