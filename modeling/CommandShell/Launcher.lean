import CommandShell.ArgVector
import CommandShell.Files.Open
import CommandShell.Outcome

/-!
# Launchers

A launcher runs the program that an argument vector names until it has ended. It reports the
outcome, the records it made, what the program wrote, and the files it left behind. Programs that go
on in the background may also have a part in what happens when the interpreter itself opens a file:
it may have to wait for one of them there.

None of this has to come to an end. A program can end the interpreter with a signal, or stop it, or
go on for ever, and a file may never be opened at its other end. The interpreter does nothing after
that, and the launcher knows why.
-/

namespace CommandShell

/-- The streams on which a program writes. -/
inductive Channel where
  /-- The stream of regular output. -/
  | output
  /-- The stream of diagnostics. -/
  | diagnostics
deriving DecidableEq, Repr

/-- Why an interpreter does nothing any more before it has come to its end. -/
inductive Departure where
  /-- A signal has ended it. -/
  | killed (signal : Nat)
  /-- It is stopped, or waits for something that never comes, and no process will change that. -/
  | stuck
deriving DecidableEq, Repr

/-- Everything that a launch leads to. -/
structure LaunchReport (ℓ : Type) where
  /-- How the program ended, or why there is nothing to tell about it, if the launch returns. -/
  result : Option (Except ShellError Outcome)
  /-- The records that the launcher made. -/
  records : List Record
  /-- What the program wrote, in order. -/
  written : List (Channel × Bytes)
  /-- The files afterwards. -/
  files : FileSystem
  /-- The launcher afterwards. -/
  launcher : ℓ

/-- What comes of something that the interpreter does itself while programs may go on in the
background. -/
structure AccessReport (ℓ α : Type) where
  /-- What it came to, or why it could not be done, if it returns. -/
  result : Option (Except IoError α)
  /-- What programs wrote in the meantime, in order. -/
  written : List (Channel × Bytes)
  /-- The files afterwards. -/
  files : FileSystem
  /-- The launcher afterwards. -/
  launcher : ℓ

namespace AccessReport

variable {ℓ : Type}

/-- A file is read, and no program has a part in it. -/
def reading (l : ℓ) (files : FileSystem) (path : Bytes) : AccessReport ℓ Reading :=
  ⟨some (files.openRead path), [], files, l⟩

/-- A file is opened to be appended to, and no program has a part in it. -/
def appending (l : ℓ) (files : FileSystem) (path : Bytes) : AccessReport ℓ Unit :=
  match files.openAppend path with
  | .ok files => ⟨some (.ok ()), [], files, l⟩
  | .error e => ⟨some (.error e), [], files, l⟩

/-- Nothing is done, and no program does anything. -/
def nothing (l : ℓ) (files : FileSystem) : AccessReport ℓ Unit :=
  ⟨some (.ok ()), [], files, l⟩

variable (l : ℓ) (files : FileSystem) (path : Bytes)

theorem result_appending_ne_none : (appending l files path).result ≠ none := by
  rw [appending]
  cases files.openAppend path <;> exact Option.some_ne_none _

theorem launcher_appending : (appending l files path).launcher = l := by
  rw [appending]
  cases files.openAppend path <;> rfl

end AccessReport

/-- The states of a launcher. -/
class Launcher (ℓ : Type) where
  /-- Runs the program that the first argument names. -/
  launch : ℓ → FileSystem → ArgVector → LaunchReport ℓ
  /-- Reads a file. -/
  readFile : ℓ → FileSystem → Bytes → AccessReport ℓ Reading := AccessReport.reading
  /-- Opens a file to append to it, and closes it. -/
  appendTo : ℓ → FileSystem → Bytes → AccessReport ℓ Unit := AccessReport.appending
  /-- Lets the programs that go on in the background do so until all is quiet. -/
  settle : ℓ → FileSystem → AccessReport ℓ Unit := AccessReport.nothing
  /-- Why the interpreter does nothing any more, if that is so. -/
  departure? : ℓ → Option Departure := fun _ => none
  /-- A launch returns unless the interpreter departs in it. -/
  returns_launch : ∀ l files args, departure? l = none →
    ((launch l files args).result = none ↔ departure? (launch l files args).launcher ≠ none)
  /-- So does reading a file. -/
  returns_readFile : ∀ l files path, departure? l = none →
    ((readFile l files path).result = none ↔ departure? (readFile l files path).launcher ≠ none)
  /-- So does opening one to append to it. -/
  returns_appendTo : ∀ l files path, departure? l = none →
    ((appendTo l files path).result = none ↔ departure? (appendTo l files path).launcher ≠ none)

/-- A launcher that runs nothing and gives prepared answers, and success when they are used up. -/
structure ScriptedLauncher where
  /-- The answers to the next launches. -/
  answers : List (Except ShellError Outcome)

/-- The next prepared answer. No file changes and nothing is written. -/
def ScriptedLauncher.launch (l : ScriptedLauncher) (files : FileSystem) (_args : ArgVector) :
    LaunchReport ScriptedLauncher :=
  match l.answers with
  | [] => ⟨some (.ok (.exited 0)), [], [], files, l⟩
  | answer :: rest => ⟨some answer, [], [], files, ⟨rest⟩⟩

theorem ScriptedLauncher.result_launch_ne_none (l : ScriptedLauncher) (files : FileSystem)
    (args : ArgVector) : (l.launch files args).result ≠ none := by
  rw [launch]
  cases l.answers <;> exact Option.some_ne_none _

instance : Launcher ScriptedLauncher where
  launch := ScriptedLauncher.launch
  returns_launch l files args _ :=
    iff_of_false (l.result_launch_ne_none files args) fun h => h rfl
  returns_readFile _ _ _ _ := iff_of_false (Option.some_ne_none _) fun h => h rfl
  returns_appendTo l files path _ :=
    iff_of_false (AccessReport.result_appending_ne_none l files path) fun h => h rfl

end CommandShell
