import CommandShell.Files.Tree
import CommandShell.Launcher

/-!
# What processes ask of the system

A process computes on its own until it needs something of the system: to read or write, to look at
files or change them, to make processes and to hear of their ends. It is described by what it asks
next and how it goes on with each answer. So a program is an ordinary function into tasks, and
everything that programs share is in the hands of the system that answers them.
-/

namespace CommandShell

/-- How a file is opened. -/
structure Opening where
  /-- It can be read. -/
  reads : Bool
  /-- It can be written to. -/
  writes : Bool
  /-- What is written goes to its end. -/
  appends : Bool
  /-- It is created if it is not there. -/
  creates : Bool
  /-- Its content is dropped. -/
  empties : Bool
  /-- It must not be there yet. -/
  exclusive : Bool

namespace Opening

/-- To read. -/
def reading : Opening := ⟨true, false, false, false, false, false⟩

/-- To write in place of what was there. -/
def writing : Opening := ⟨false, true, false, true, true, false⟩

/-- To write after what is there. -/
def appending : Opening := ⟨false, true, true, true, false, false⟩

/-- To read and write what may be there. -/
def both : Opening := ⟨true, true, false, true, false, false⟩

end Opening

/-- What is known of an entry without opening it. -/
inductive Kind where
  | file | directory | link | device | pipe
deriving DecidableEq

/-- The facts about an entry. -/
structure Facts where
  /-- What it is. -/
  kind : Kind
  /-- The number of its bytes. -/
  size : Nat
  /-- The bits of its permissions. -/
  mode : Nat
  /-- Where it stands; two paths lead to the same entry if this is the same. -/
  location : Path
  /-- The number of its paths. -/
  names : Nat := 1
  /-- When it was last changed, in billionths of a second. -/
  modified : Int := Stamp.epoch
  /-- When it was last looked at, in billionths of a second. -/
  accessed : Int := Stamp.epoch
  /-- A number by which it is known. -/
  number : Nat := 2

/-- Something of which processes get no more than is set. -/
inductive Resource where
  | time | fileSize | data | stack | core | memory | locked | processes | openFiles | space | locks
  | priority
deriving DecidableEq, Repr

/-- How much processes get of something, and how much that can be made; nothing is said if there is
no limit. -/
structure Limit where
  /-- How much they get. -/
  soft : Option Nat
  /-- How much the limit can be made. -/
  hard : Option Nat
deriving DecidableEq, Repr

/-- How an open file is kept from being locked by others. -/
inductive Lock where
  /-- Others may lock it too, as long as they share it. -/
  | shared
  /-- Nobody else may lock it. -/
  | exclusive
deriving DecidableEq

/-- From where a position in a file is counted. -/
inductive Base where
  | start | current | finish
deriving DecidableEq

/-- A change of the tree of files. -/
inductive Change where
  /-- A directory is made. -/
  | makeDirectory (path : Bytes)
  /-- A directory without entries is taken away. -/
  | removeDirectory (path : Bytes)
  /-- An entry that is no directory is taken away. -/
  | unlink (path : Bytes)
  /-- An entry gets another path. -/
  | rename (source goal : Bytes)
  /-- A symbolic link is made. -/
  | makeLink (content path : Bytes)
  /-- A second entry is made for a file. -/
  | addName (source goal : Bytes)
  /-- The permissions are set. -/
  | setMode (path : Bytes) (mode : Nat)
  /-- The times of an entry are set, or of what it leads to. -/
  | setTimes (path : Bytes) (through : Bool) (modified accessed : Option Int)
  /-- The content is cut or filled with zeros to a length. -/
  | resize (path : Bytes) (size : Nat)
  /-- A named pipe is made. -/
  | makePipe (path : Bytes)

/-- How a process ended. -/
inductive Ending where
  /-- It exited with a status. -/
  | exited (status : Nat)
  /-- A signal of a number ended it. -/
  | killed (signal : Nat)
deriving DecidableEq

/-- What a process does when it gets a signal. -/
inductive Reaction where
  /-- What the signal does to every process. -/
  | usual
  /-- Nothing. -/
  | ignore
  /-- It keeps the signal in mind. -/
  | remember
deriving DecidableEq

/-- Something that a process asks of the system. -/
inductive Call where
  /-- Up to so many bytes from an open file; none at its end. -/
  | read (fd count : Nat)
  /-- To put bytes into an open file, all of them. -/
  | write (fd : Nat) (bytes : Bytes)
  /-- To open a file and give it the first free number. -/
  | openFile (path : Bytes) (how : Opening)
  /-- To forget an open file. -/
  | close (fd : Nat)
  /-- To give an open file the first free number from a least one on. -/
  | duplicate (fd least : Nat)
  /-- To give an open file a number, in place of what had it. -/
  | redirect (fd number : Nat)
  /-- To keep an open file from the program that replaces this one. -/
  | closeOnExec (fd : Nat)
  /-- To set the position of an open file. -/
  | seek (fd : Nat) (base : Base) (offset : Int)
  /-- To lock an open file, by a certain time if one is given, or to unlock it. -/
  | lock (fd : Nat) (how : Option Lock) (deadline : Option Nat)
  /-- A pipe: the numbers of its two ends. -/
  | makePipe
  /-- The facts about the entry that a path leads to, or names. -/
  | facts (path : Bytes) (through : Bool)
  /-- The facts about an open file. -/
  | factsOf (fd : Nat)
  /-- The names in a directory. -/
  | children (path : Bytes)
  /-- Where a link leads. -/
  | linkContent (path : Bytes)
  /-- A change of the tree of files. -/
  | change (c : Change)
  /-- To go to a directory. -/
  | enter (path : Bytes)
  /-- The path of the directory that the process is in. -/
  | directory
  /-- To set which permissions new files do not get; the old ones are the answer. -/
  | mask (mode : Nat)
  /-- To hear of the end of a child, of a certain one or of any; by a certain time if one is
  given. -/
  | wait (pid : Option Nat) (deadline : Option Nat)
  /-- To send a signal to a process, to its own group if the number is zero, or to the group of a
  number below zero. -/
  | signal (pid : Int) (number : Nat)
  /-- To set what the process does when it gets a signal; the old reaction is the answer. -/
  | react (number : Nat) (reaction : Reaction)
  /-- The signals that the process kept in mind. -/
  | remembered
  /-- To have signals wait until they are let through again, or to let them through. -/
  | withhold (numbers : List Nat) (waiting : Bool)
  /-- The signals that wait and those that are ignored. -/
  | withheld
  /-- How much the process gets of something; a limit is set if it is given. -/
  | limit (r : Resource) (new : Option Limit)
  /-- To have others go first, by so much more. -/
  | yield (more : Int)
  /-- To leave the group of processes that it is in for one of its own. -/
  | leaveGroup
  /-- To do nothing for a time, in millionths of a second. -/
  | sleep (span : Nat)
  /-- The time, in millionths of a second. -/
  | time
  /-- To take some time, in millionths of a second, to compute. -/
  | work (span : Nat)
  /-- The number of the process and of the one that made it. -/
  | self

/-- The type of the answers to a call. -/
def Call.Reply : Call → Type
  | read _ _ => Except Errno Bytes
  | write _ _ => Except Errno Unit
  | openFile _ _ => Except Errno Nat
  | close _ => Except Errno Unit
  | duplicate _ _ => Except Errno Nat
  | redirect _ _ => Except Errno Unit
  | closeOnExec _ => Except Errno Unit
  | seek _ _ _ => Except Errno Nat
  | lock _ _ _ => Except Errno Unit
  | makePipe => Except Errno (Nat × Nat)
  | facts _ _ => Except Errno Facts
  | factsOf _ => Except Errno Facts
  | children _ => Except Errno (List (Name × Kind))
  | linkContent _ => Except Errno Bytes
  | change _ => Except Errno Unit
  | enter _ => Except Errno Unit
  | directory => Except Errno Bytes
  | mask _ => Nat
  | wait _ _ => Except Errno (Option (Nat × Ending))
  | signal _ _ => Except Errno Unit
  | react _ _ => Reaction
  | remembered => List Nat
  | withhold _ _ => Unit
  | withheld => List Nat × List Nat
  | limit _ _ => Except Errno Limit
  | yield _ => Except Errno Int
  | leaveGroup => Unit
  | sleep _ => Bool
  | time => Nat
  | work _ => Unit
  | self => Nat × Nat

/-- What a process does from some point on. -/
inductive Task where
  /-- It exits with a status. -/
  | exit (status : Nat)
  /-- It asks for something and goes on with the answer. -/
  | call (c : Call) (next : c.Reply → Task)
  /-- It makes a process that does something else, and goes on with its number. -/
  | fork (child : Task) (next : Nat → Task)
  /-- It is replaced by the program at a path, or goes on with why it was not. -/
  | exec (path : Bytes) (args environment : List Bytes) (next : Errno → Task)

/-- A part of what a process does, with a result. -/
def Program (α : Type) : Type :=
  (α → Task) → Task

namespace Program

/-- The program that has a result at once. -/
@[inline] def done {α : Type} (a : α) : Program α :=
  fun next => next a

/-- One program after another. -/
@[inline] def andThen {α β : Type} (p : Program α) (f : α → Program β) : Program β :=
  fun next => p fun a => f a next

instance : Monad Program where
  pure := done
  bind := andThen

/-- Asks the system for something. -/
@[inline] def call (c : Call) : Program c.Reply :=
  fun next => .call c next

/-- The process exits. -/
def exit {α : Type} (status : Nat) : Program α :=
  fun _ => .exit status

/-- Makes a process; the result is its number. -/
def fork (child : Task) : Program Nat :=
  fun next => .fork child next

/-- Replaces the program of the process; there is a result only if that fails. -/
def exec (path : Bytes) (args environment : List Bytes) : Program Errno :=
  fun next => .exec path args environment next

/-- The task of a program that exits with the status it comes to. -/
def task (p : Program Nat) : Task :=
  p .exit

end Program

end CommandShell
