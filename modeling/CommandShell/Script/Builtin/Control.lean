import CommandShell.Script.Builtin.Condition
import CommandShell.Script.Builtin.Jobs

/-!
# Commands of the shell that direct it

Other commands are executed from words or from a file, the process is replaced by a program, and
loops, functions and the script itself are left.
-/

namespace CommandShell.Script

namespace Act

variable (run : Runner)

/-- Executes words as commands. -/
def eval (tested : Bool) (args : List Bytes) : Act Nat :=
  if args = [] then return 0
  else evaluate run ([0x20].intercalate args) tested false

/-- The file that a name means for a script that reads commands from it. -/
def sourceFile (name : Bytes) : Act Bytes := do
  if name.contains slash then return name
  let rec first : List Bytes → Act Bytes
    | [] => fail (name ++ utf8 ": not found")
    | path :: rest => do
      match ← call (.facts path true) with
      | .ok f => if f.kind = .file then return path else first rest
      | .error _ => first rest
  first (candidates (← searchPath) name)

/-- Opens a file to read commands from it. -/
def openSource (name : Bytes) : Act Nat := do
  match ← call (.openFile name .reading) with
  | .error e => fail (utf8 "cannot open " ++ name ++ utf8 ": " ++ reason "No such file" e)
  | .ok fd =>
    match ← call (.duplicate fd 10) with
    | .ok high =>
      let _ ← call (.closeOnExec high)
      let _ ← call (.close fd)
      return high
    | .error _ => return fd

/-- Forgets the innermost text, with its file. -/
def closeSource : Act Unit := do
  match (← get).sources with
  | [] => return ()
  | o :: rest =>
    match o.file with
    | some fd => let _ ← call (.close fd)
    | none => pure ()
    modify fun s => { s with sources := rest }

/-- Executes the commands of a file. -/
def source (args : List Bytes) : Act Nat := do
  let (_, words) ← options "" args
  match words with
  | [] => return 0
  | name :: _ =>
    let path ← sourceFile name
    let fd ← openSource path
    modify fun s => { s with
      sources := ⟨[], [], some fd, 1, false⟩ :: s.sources, command := some path }
    let status ← run (.commands 0 false false)
    closeSource
    modify fun s => { s with skip := match s.skip with
      | .function _ => .none
      | other => other }
    return status

/-- Replaces the process by a program, if one is named. -/
def exec (args : List Bytes) : Act Nat := do
  let (_, words) ← options "" args
  if words = [] then return 0 else become words none

/-- Ends the script. -/
def exit_ (args : List Bytes) : Act Nat := do
  match args with
  | [] => pure ()
  | word :: _ =>
    let n ← number word
    modify fun s => { s with trapStatus := some n }
  throw .exit

/-- Leaves the function, or the script that is being read. -/
def return_ (args : List Bytes) : Act Nat := do
  let status ← match args with
    | [] => pure (← get).status
    | word :: _ => number word
  modify fun s => { s with skip := .function (args ≠ []) }
  return status

/-- Leaves loops, for good or for the next round. -/
def leaveLoops (again : Bool) (args : List Bytes) : Act Nat := do
  let n ← match args with
    | [] => pure 1
    | word :: _ => number word
  if n = 0 then fail (utf8 "Illegal number: " ++ args.headD [])
  let n := min n (← get).loops
  if n ≠ 0 then modify fun s => { s with skip := if again then .continue n else .break n }
  return 0

/-- Executes a command of the shell. -/
def builtin (name : String) (tested : Bool) (args : List Bytes) : Act Nat :=
  match name with
  | "." => source run args
  | ":" => return 0
  | "[" => test true args
  | "alias" => alias_ args
  | "bg" => controlled args
  | "break" => leaveLoops false args
  | "cd" => cd args
  | "chdir" => cd args
  | "command" => command args
  | "continue" => leaveLoops true args
  | "echo" => echo args
  | "eval" => eval run tested args
  | "exec" => exec args
  | "exit" => exit_ args
  | "export" => declare args "export" (·.exported) fun v => { v with exported := true }
  | "false" => return 1
  | "fg" => controlled args
  | "getopts" => getopts args
  | "hash" => hash args
  | "jobs" => jobs args
  | "kill" => kill args
  | "local" => makeLocal args
  | "printf" => printf args
  | "pwd" => pwd args
  | "read" => readInto args
  | "readonly" => declare args "readonly" (·.fixed) fun v => { v with fixed := true }
  | "return" => return_ args
  | "set" => set_ args
  | "shift" => shift args
  | "test" => test false args
  | "times" => times args
  | "trap" => trap args
  | "true" => return 0
  | "type" => type_ args
  | "ulimit" => ulimit args
  | "umask" => umask args
  | "unalias" => unalias args
  | "unset" => unset args
  | "wait" => wait args
  | _ => return 0

end Act

end CommandShell.Script
