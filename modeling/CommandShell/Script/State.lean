import CommandShell.Machine.Call
import CommandShell.Script.Arithmetic
import CommandShell.Script.Parse

/-!
# The state of a script

What a script has set up while it runs: variables, functions and abbreviations, parameters and
options, what signals lead to, the commands that run beside it, and where it is being read from. An
action changes this state, asks the system for things, and may be broken off by an error or by the
end of the script.
-/

namespace CommandShell.Script

/-- A variable. -/
structure Variable where
  /-- Its name. -/
  name : Bytes
  /-- Its value, if it has one. -/
  value : Option Bytes
  /-- Whether programs are given it. -/
  exported : Bool
  /-- Whether it cannot be changed. -/
  fixed : Bool

/-- What is still to be left before the script goes on as usual. -/
inductive Skip where
  /-- Nothing. -/
  | none
  /-- So many loops, all of them for good. -/
  | break (count : Nat)
  /-- So many loops, the last of them for its next round. -/
  | continue (count : Nat)
  /-- The function, or the script that is being read. Its status may be `given`. -/
  | function (given : Bool)
deriving DecidableEq

/-- A process that was made for a command. -/
structure Member where
  /-- Its number. -/
  pid : Nat
  /-- How it ended, if it has. -/
  ending : Option Ending

/-- The processes of a command. -/
structure Job where
  /-- The number of the job. -/
  number : Nat
  /-- The processes, first to last. -/
  members : List Member
  /-- Whether its status has been asked for, so that it can be forgotten. -/
  waited : Bool

/-- Where commands are read from. -/
structure Origin where
  /-- Texts in front of the rest, the next one first. -/
  pushed : List Pushed
  /-- What was read and is not yet used. -/
  text : Bytes
  /-- The open file that more can be read from, if there is one. -/
  file : Option Nat
  /-- The number of the line. -/
  line : Nat
  /-- Whether the last line that was read ended with the text. -/
  atEnd : Bool

/-- A variable as it was before a function made it its own. -/
inductive Former where
  /-- The variable, if there was one of the name. -/
  | variable_ (name : Bytes) (old : Option Variable)
  /-- The options. -/
  | options (old : List UInt8)

/-- The state of a script. -/
structure Shell where
  /-- The name under which the script complains. -/
  name : Bytes
  /-- The command of the shell that is being executed, if one is. -/
  command : Option Bytes
  /-- The variables. -/
  bindings : List Variable
  /-- The functions, with their lines. -/
  functions : List (Bytes × Nat × Tree)
  /-- The abbreviations. -/
  aliases : List (Bytes × Bytes)
  /-- The parameters after the name. -/
  parameters : List Bytes
  /-- The letters of the options that are set. -/
  options : List UInt8
  /-- The status of the last command. -/
  status : Nat
  /-- The status of the last command whose output was filled in. -/
  filledStatus : Nat
  /-- The line of the command that is executed. -/
  line : Nat
  /-- The line that a complaint is about. -/
  errorLine : Nat
  /-- The line of the function that is executed, or zero. -/
  functionLine : Nat
  /-- The number of functions that are executed, one within the other. -/
  nested : Nat
  /-- The number of loops around the command. -/
  loops : Nat
  /-- What is still to be left. -/
  skip : Skip
  /-- The documents of the script. -/
  documents : Array Word
  /-- Where commands are read from, innermost first. -/
  sources : List Origin
  /-- What signals lead to; the end of the script counts as the signal zero. -/
  traps : List (Nat × Bytes)
  /-- Signals that have arrived and are not dealt with. -/
  pending : List Nat
  /-- The status before the command of a signal, while that is executed. -/
  trapStatus : Option Nat
  /-- The jobs that run beside the script, newest first. -/
  jobs : List Job
  /-- The number of the last process that is not waited for. -/
  lastBackground : Option Nat
  /-- The number of the process of the script. -/
  pid : Nat
  /-- The directory, as the way to it was named. -/
  directory : Bytes
  /-- The programs that were found, with their paths. -/
  found : List (Bytes × Bytes)
  /-- What open files were before they were changed, innermost change first. -/
  saved : List (List (Nat × Option Nat))
  /-- Variables as they were, innermost function first. -/
  locals : List (List Former)
  /-- What a command of the shell has written and not yet handed on, last first. -/
  output : List Bytes
  /-- The number of the word whose options come next, and where in the word before it there may be
  more of them. -/
  optionPlace : Nat × Option Nat

/-- Why an action is broken off. -/
inductive Stop where
  /-- An error. -/
  | error
  /-- The script asks for its end. -/
  | exit
  /-- The end of the process, with its status. -/
  | finish
deriving DecidableEq

/-- An action of a script. -/
abbrev Act (α : Type) : Type :=
  ExceptT Stop (StateT Shell Program) α

namespace Act

/-- Asks the system for something. -/
def call (c : Call) : Act c.Reply :=
  ExceptT.lift (StateT.lift (Program.call c))

/-- Does something and goes on whether it is broken off or not. -/
def attempt {α : Type} (a : Act α) : Act (Except Stop α) :=
  ExceptT.mk do
    let r ← a.run
    return .ok r

/-- Goes on with a result, or breaks off as that says. -/
def resume {α : Type} (r : Except Stop α) : Act α :=
  ExceptT.mk (return r)

/-- Writes bytes to an open file; what goes wrong with that does not matter. -/
def emit (fd : Nat) (bytes : Bytes) : Act Unit := do
  if bytes ≠ [] then
    let _ ← call (.write fd bytes)

/-- The complaint of a script: its name, the line, the command of the shell if there is one, and
what is wrong. -/
def complaint (s : Shell) (what : Bytes) : Bytes :=
  let front := s.name ++ utf8 (": " ++ toString s.errorLine ++ ": ")
  let front := match s.command with
    | some c => front ++ c ++ utf8 ": "
    | none => front
  front ++ what ++ [0x0A]

/-- Complains and goes on. -/
def warn (what : Bytes) : Act Unit := do
  emit 2 (complaint (← get) what)

/-- Complains and breaks off with a status. -/
def failWith {α : Type} (status : Nat) (what : Bytes) : Act α := do
  warn what
  modify fun s => { s with status := status }
  throw .error

/-- Complains and breaks off. -/
def fail {α : Type} (what : Bytes) : Act α :=
  failWith 2 what

/-- Keeps what a command of the shell writes until it has ended. -/
def say (bytes : Bytes) : Act Unit :=
  modify fun s => { s with output := bytes :: s.output }

/-- Whether an option is set. -/
def option (letter : Char) : Act Bool := do
  return (← get).options.contains letter.toUInt8

end Act

namespace Shell

/-- The variable of a name. -/
def named? (s : Shell) (name : Bytes) : Option Variable :=
  s.bindings.find? fun v => v.name = name

/-- The value of a variable. -/
def value? (s : Shell) (name : Bytes) : Option Bytes :=
  (s.named? name).bind (·.value)

/-- The value of a variable of the shell itself. -/
def setting (s : Shell) (name : String) : Bytes :=
  (s.value? (utf8 name)).getD []

/-- Puts a variable in the place of the one of its name. -/
def putVariable (s : Shell) (v : Variable) : Shell :=
  if s.bindings.any fun u => u.name = v.name then
    { s with bindings := s.bindings.map fun u => if u.name = v.name then v else u }
  else { s with bindings := s.bindings ++ [v] }

/-- Takes away the variable of a name. -/
def dropVariable (s : Shell) (name : Bytes) : Shell :=
  { s with bindings := s.bindings.filter (·.name ≠ name) }

/-- The place of a variable among others in listings. -/
def bucket (name : Bytes) : Nat :=
  let first := (name.head?.map (·.toNat)).getD 0
  name.foldl (fun n b => n + b.toNat) (first * 16) % 39

/-- The variables in the order in which programs are given them. -/
def inOrder (s : Shell) : List Variable :=
  s.bindings.mergeSort fun a b => bucket a.name ≤ bucket b.name

/-- What programs are given of the variables. -/
def environment (s : Shell) : List Bytes :=
  s.inOrder.filterMap fun v =>
    if v.exported then v.value.map fun value => v.name ++ 0x3D :: value else none

/-- The fields are separated at these bytes. -/
def separators (s : Shell) : Bytes :=
  ((s.named? (utf8 "IFS")).bind (·.value)).getD [0x20, 0x09, 0x0A]

end Shell

namespace Act

/-- Sets a variable, and exports it if asked to. Some variables are watched by the shell. -/
def setVariable (name value : Bytes) (exporting : Bool) : Act Unit := do
  let s ← get
  let old := s.named? name
  if (old.map (·.fixed)).getD false then fail (name ++ utf8 ": is read only")
  let allExported := s.options.contains 'a'.toUInt8
  let exported := exporting || allExported || (old.map (·.exported)).getD false
  modify fun s => s.putVariable ⟨name, some value, exported, false⟩
  if name = utf8 "PATH" then modify fun s => { s with found := [] }
  if name = utf8 "OPTIND" then
    match Arithmetic.count? value with
    | some n => modify fun s => { s with optionPlace := (max 1 n, none) }
    | none => fail (utf8 "Illegal number: " ++ value)

/-- Sets a variable from a text with an equals sign after the name. -/
def setFrom (text : Bytes) (exporting : Bool) : Act Unit :=
  let name := text.takeWhile (· ≠ 0x3D)
  setVariable name (text.drop (name.length + 1)) exporting

/-- Takes the value of a variable away. -/
def unsetVariable (name : Bytes) : Act Unit := do
  match (← get).named? name with
  | none => return ()
  | some v =>
    if v.fixed then fail (name ++ utf8 ": is read only")
    modify fun s => s.dropVariable name
    if name = utf8 "PATH" then modify fun s => { s with found := [] }

/-- Keeps a variable to be put back when the function ends. -/
def keep (name : Bytes) : Act Unit :=
  modify fun s =>
    match s.locals with
    | [] => s
    | frame :: rest => { s with locals := (.variable_ name (s.named? name) :: frame) :: rest }

/-- Puts back what was kept for the innermost function. -/
def dropLocals : Act Unit :=
  modify fun s =>
    match s.locals with
    | [] => s
    | frame :: rest =>
      let back := frame.foldl (fun s former =>
        match former with
        | .variable_ _ (some v) => s.putVariable v
        | .variable_ name none => s.dropVariable name
        | .options old => { s with options := old }) s
      { back with locals := rest }

/-- How a byte string is written so that the shell would read it back. -/
def quote (text : Bytes) : Bytes :=
  go (text.length + 1) text
where
  /-- Runs of marks are put into the other kind of marks. -/
  go : Nat → Bytes → Bytes
    | 0, _ => []
    | fuel + 1, text =>
      let plain := text.takeWhile (· ≠ 0x27)
      let marks := (text.drop plain.length).takeWhile (· = 0x27)
      let after := text.drop (plain.length + marks.length)
      0x27 :: plain ++ [0x27] ++ (if marks = [] then [] else 0x22 :: marks ++ [0x22]) ++
        (if after = [] then [] else go fuel after)

end Act

end CommandShell.Script
