import CommandShell.ArgVector
import CommandShell.Builtin.Failure
import CommandShell.Options
import CommandShell.Text.Utf8

/-!
# Arguments of commands that take paths

A command that takes paths has one option, which asks for its manual. Its arguments have to be text.
-/

namespace CommandShell

/-- What the arguments of a command that takes paths say. -/
structure PathRequest where
  /-- Whether the manual is asked for. -/
  manual : Bool
  /-- The paths. -/
  paths : List String
deriving DecidableEq, Repr

namespace PathRequest

/-- The option that asks for the manual. -/
def manualOption : String := "--man"

/-- The options of a command that takes paths. -/
def grammar : Grammar PathRequest where
  start := ⟨false, []⟩
  option? := fun name =>
    if name = manualOption then some (.switch fun r => { r with manual := true }) else none
  operand? := some fun r path => { r with paths := r.paths ++ [path] }

end PathRequest

namespace ArgVector

/-- The arguments as texts, or the first that is none. -/
def texts (name : String) : List Bytes → Except Failure (List String)
  | [] => .ok []
  | argument :: rest =>
    match Text.decode? argument with
    | none => .error (.notText name (Text.display argument))
    | some text =>
      match texts name rest with
      | .error f => .error f
      | .ok others => .ok (.ofList text :: others)

end ArgVector

end CommandShell
