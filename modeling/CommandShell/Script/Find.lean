import CommandShell.Script.Redirect

/-!
# Finding commands

A name is that of a function, of a command of the shell, or of a program. Programs are looked for in
the directories of the search path, unless they are named by a path; where one was found is kept.
-/

namespace CommandShell.Script

/-- What a name stands for. -/
inductive Found where
  /-- A function. -/
  | function (line : Nat) (body : Tree)
  /-- A command of the shell. -/
  | builtin
  /-- A program, with the paths at which it may be. -/
  | program
  /-- Nothing, for a reason. -/
  | nothing (e : Errno)

/-- What kind of command of the shell a name is. -/
structure Trait where
  /-- The name. -/
  name : String
  /-- Whether an error in it is the end of the script, and variables that are set for it stay. -/
  special : Bool
  /-- Whether its words may set variables. -/
  assigning : Bool

/-- The commands of the shell. -/
def builtins : List Trait := [
  ⟨".", true, false⟩, ⟨":", true, false⟩, ⟨"[", false, false⟩, ⟨"alias", false, false⟩,
  ⟨"bg", false, false⟩, ⟨"break", true, false⟩, ⟨"cd", false, false⟩, ⟨"chdir", false, false⟩,
  ⟨"command", false, false⟩, ⟨"continue", true, false⟩, ⟨"echo", false, false⟩,
  ⟨"eval", true, false⟩, ⟨"exec", true, false⟩, ⟨"exit", true, false⟩, ⟨"export", true, true⟩,
  ⟨"false", false, false⟩, ⟨"fg", false, false⟩, ⟨"getopts", false, false⟩,
  ⟨"hash", false, false⟩, ⟨"jobs", false, false⟩, ⟨"kill", false, false⟩, ⟨"local", true, true⟩,
  ⟨"printf", false, false⟩, ⟨"pwd", false, false⟩, ⟨"read", false, false⟩,
  ⟨"readonly", true, true⟩, ⟨"return", true, false⟩, ⟨"set", true, false⟩,
  ⟨"shift", true, false⟩, ⟨"test", false, false⟩, ⟨"times", true, false⟩, ⟨"trap", true, false⟩,
  ⟨"true", false, false⟩, ⟨"type", false, false⟩, ⟨"ulimit", false, false⟩,
  ⟨"umask", false, false⟩, ⟨"unalias", false, false⟩, ⟨"unset", true, false⟩,
  ⟨"wait", false, false⟩]

/-- The command of the shell of a name. -/
def builtin? (name : Bytes) : Option Trait :=
  builtins.find? fun k => utf8 k.name = name

namespace Act

/-- The paths that a name may have in the directories of a search path. -/
def candidates (path name : Bytes) : List Bytes :=
  (path.splitOn 0x3A).map fun d => if d = [] then name else d ++ slash :: name

/-- Looks for a program; the answer is its path, or why there is none. -/
def locateIn (e : Errno) : List Bytes → Act (Except Errno Bytes)
  | [] => return .error e
  | path :: rest => do
    match ← call (.facts path true) with
    | .ok f => if f.kind = .file then return .ok path else locateIn .permissionDenied rest
    | .error x => locateIn (if x = .noEntry ∨ x = .notDirectory then e else x) rest

/-- The search path. -/
def searchPath : Act Bytes := do
  return ((← get).value? (utf8 "PATH")).getD []

/-- Looks for a program in the search path and keeps where it was found. -/
def locate (name : Bytes) : Act (Except Errno Bytes) := do
  match (← get).found.lookup name with
  | some path => return .ok path
  | none =>
    match ← locateIn .noEntry (candidates (← searchPath) name) with
    | .ok path =>
      modify fun s => { s with found := s.found ++ [(name, path)] }
      return .ok path
    | .error e => return .error e

/-- What a name stands for; functions may be left out. -/
def find (name : Bytes) (functions : Bool) (path : Option Bytes) : Act Found := do
  if name.contains slash then return .program
  let s ← get
  match if functions then s.functions.lookup name else none with
  | some (line, body) => return .function line body
  | none =>
    if (builtin? name).isSome then return .builtin
    match path with
    | none =>
      match ← locate name with
      | .ok _ => return .program
      | .error e => return .nothing e
    | some path =>
      match ← locateIn .noEntry (candidates path name) with
      | .ok _ => return .program
      | .error e => return .nothing e

/-- Replaces the program of the process. There is a result only if that fails. -/
def replace (path : Bytes) (args environment : List Bytes) : Act Errno :=
  ExceptT.mk fun s next => .exec path args environment fun e => next (.ok e, s)

/-- The program that executes files that are no programs. -/
def shellPath : Bytes := utf8 "/bin/sh"

/-- Replaces the program of the process by the one at a path, or by a shell that executes the file
there. -/
def replaceOrRead (path : Bytes) (args environment : List Bytes) : Act Errno := do
  let e ← replace path args environment
  if e = .execFormat then replace shellPath (shellPath :: path :: args.tail) environment
  else return e

/-- Tries to replace the program of the process by one of several. -/
def replaceByAny (args environment : List Bytes) (e : Errno) : List Bytes → Act Errno
  | [] => return e
  | path :: rest => do
    let x ← replaceOrRead path args environment
    replaceByAny args environment (if x = .noEntry ∨ x = .notDirectory then e else x) rest

/-- Replaces the program of the process by the one that the first argument names; if that fails, it
is the end of the process. -/
def become {α : Type} (args : List Bytes) (path : Option Bytes) : Act α := do
  let s ← get
  let name := args.headD []
  let environment := s.environment
  let e ← if name.contains slash then replaceOrRead name args environment
    else do
      let path ← match path with
        | some p => pure p
        | none => searchPath
      replaceByAny args environment .noEntry (candidates path name)
  let missing := e = .tooManyLinks ∨ e = .nameTooLong ∨ e = .noEntry ∨ e = .notDirectory
  warn (name ++ utf8 ": " ++ reason "not found" e)
  modify fun s => { s with status := if missing then 127 else 126 }
  throw .finish

end Act

end CommandShell.Script
