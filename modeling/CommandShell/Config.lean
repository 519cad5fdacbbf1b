import CommandShell.Options
import CommandShell.Record

/-!
# The configuration of the interpreter

The interpreter is started with or without its prompt, and with a choice of the records it keeps.
-/

namespace CommandShell

/-- How the interpreter is started. -/
structure Config where
  /-- Whether the prompt is left out. -/
  noPrompt : Bool
  /-- Which records are kept. -/
  verbosity : Verbosity
deriving DecidableEq, Repr

namespace Verbosity

/-- The names of the choices. -/
def names : List (String × Verbosity) :=
  [("off", off), ("error", upTo .error), ("warn", upTo .warn), ("info", upTo .info),
   ("debug", upTo .debug), ("trace", upTo .trace)]

/-- The choice of a name, in which upper and lower case of ASCII letters are the same. -/
def ofName? (name : String) : Option Verbosity :=
  names.lookup (String.ofList (name.toList.map Char.toLower))

/-- The name of a choice. -/
def name (v : Verbosity) : String :=
  match v.limit with
  | none => "off"
  | some .error => "error"
  | some .warn => "warn"
  | some .info => "info"
  | some .debug => "debug"
  | some .trace => "trace"

end Verbosity

namespace Config

/-- The options read so far. -/
structure Choice where
  /-- Whether the prompt is left out. -/
  noPrompt : Bool
  /-- Which records are kept, if that was said. -/
  verbosity? : Option Verbosity
deriving DecidableEq, Repr

/-- The option that leaves out the prompt. -/
def noPromptOption : String := "--no-prompt"

/-- The option that chooses the records. -/
def logLevelOption : String := "--log-level"

/-- Sets which records are kept, which can be said only once. -/
def Choice.setVerbosity (c : Choice) (name : String) : Except String Choice :=
  match c.verbosity? with
  | some _ => .error "duplicate values provided"
  | none =>
    match Verbosity.ofName? name with
    | some v => .ok { c with verbosity? := some v }
    | none => .error ("unknown log level: " ++ name)

/-- The options of the interpreter. It takes no operands. -/
def grammar : Grammar Choice where
  start := ⟨false, none⟩
  option? := fun name =>
    if name = noPromptOption then some (.switch fun c => { c with noPrompt := true })
    else if name = logLevelOption then some (.value Choice.setVerbosity)
    else none
  operand? := none

/-- The configuration that options amount to: unless said otherwise, warnings and errors are kept.
-/
def ofChoice (c : Choice) : Config :=
  ⟨c.noPrompt, c.verbosity?.getD (.upTo .warn)⟩

/-- Reads the arguments of the interpreter. -/
def ofArguments (arguments : List String) : Request Config :=
  match grammar.read arguments with
  | .run c => .run (ofChoice c)
  | .help => .help
  | .refused r => .refused r

/-- The help text of the interpreter under a name. -/
def helpText (name : String) : String :=
  "Usage: " ++ name ++ " [--no-prompt] [--log-level <log-level>]\n\n" ++
  "A minimal interactive command interpreter.\n\n" ++
  "Options:\n" ++
  "  --no-prompt       do not print the working-directory prompt before each line\n" ++
  "  --log-level       maximum level of diagnostics written to stderr: off, error,\n" ++
  "                    warn, info, debug or trace\n" ++
  "  --help, help      display usage information\n"

end Config

end CommandShell
