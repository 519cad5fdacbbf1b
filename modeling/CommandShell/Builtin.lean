import CommandShell.Builtin.Manual
import CommandShell.Builtin.Paths
import CommandShell.Handler
import CommandShell.Text.WhiteSpace

/-!
# Builtin commands

The commands that the interpreter executes itself. The first four are those of every session; a
table may name others besides. Where programs that go on in the background have a part in what is in
a file, the launcher lets them.
-/

namespace CommandShell

/-- A command that the interpreter executes itself. -/
inductive Builtin where
  /-- Creates files. -/
  | create
  /-- Prints files. -/
  | print
  /-- Prints an overview. -/
  | help
  /-- Ends the loop. -/
  | exit
  /-- Prints its arguments. -/
  | echo
  /-- Says goodbye and ends the loop. -/
  | quit
  /-- Fails. -/
  | fail
  /-- Prints something and fails. -/
  | chain
deriving DecidableEq, Repr

namespace Handler

/-- Prints a text without the white space at its end, and ends the line. -/
def printLine (text : String) : Handler :=
  printTexts (.done (.ok .proceed)) [.ofList (Text.trimEnd text.toList), "\n"]

/-- What a command that takes paths does. Requests for help and refusals of the arguments are
printed; what the command does to files is the last thing that is looked at. -/
def withPaths (m : Manual) (act : List String → Handler) (args : ArgVector) : Handler :=
  match args with
  | [] => .done (.ok .proceed)
  | name :: rest =>
    let calledAs := Text.display name
    match ArgVector.texts calledAs rest with
    | .error f => .done (.error f)
    | .ok texts =>
      match PathRequest.grammar.read texts with
      | .help => printLine (m.helpText calledAs)
      | .refused r => printLine r.message
      | .run request =>
        if request.manual then printTexts (.done (.ok .proceed)) [m.text]
        else if request.paths = [] then printTexts (.done (.ok .proceed)) [m.usage]
        else act request.paths

end Handler

/-- The arguments with a bar after each, and a newline. -/
def ArgVector.barred (args : ArgVector) : Bytes :=
  args.flatMap (· ++ [0x7C]) ++ [0x0A]

namespace Builtin

/-- What a builtin command does with its arguments, the name included. -/
def handler (b : Builtin) (args : ArgVector) : Handler :=
  match b with
  | .create => Handler.withPaths .create Handler.createFiles args
  | .print => Handler.withPaths .print Handler.printFiles args
  | .help => Handler.printTexts (.done (.ok .proceed)) [overview]
  | .exit => .done (.ok .stop)
  | .echo => Handler.printBytes args.barred (.ok .proceed)
  | .quit => Handler.printTexts (.done (.ok .stop)) ["bye\n"]
  | .fail => .done (.error .broken)
  | .chain => Handler.printTexts (.done (.error .layered)) ["partial\n"]

instance : HasHandler Builtin where
  handler := handler

/-- Executes a builtin command on its arguments, the name included. -/
def run {σ τ ℓ : Type} [Sink σ] [Launcher ℓ] (b : Builtin) (args : ArgVector)
    (s : Session σ τ ℓ) : Verdict × Session σ τ ℓ :=
  (b.handler args).run s

end Builtin

end CommandShell
