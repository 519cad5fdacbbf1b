import CommandShell.Files.Change
import CommandShell.Launch.Wait
import CommandShell.Machine.Call

/-!
# Processes and what they share

A world holds the files, the open files and pipes, and the processes that use them. A process knows
an open file by a number; several numbers, in one process or in several, may stand for one open file
and then share its position. Time only passes when processes use it.
-/

namespace CommandShell

/-- What stands behind an open file. -/
inductive Backing where
  /-- The file at a path. -/
  | file (path : Path)
  /-- A file that has no path any more. -/
  | removed (content : Bytes)
  /-- A directory. -/
  | directory (path : Path)
  /-- The device that accepts everything and keeps nothing. -/
  | null
  /-- The device that accepts everything and gives zeros. -/
  | zero
  /-- The device that has no room for anything. -/
  | full
  /-- A pipe of a number. -/
  | pipe (number : Nat)
  /-- One of the streams that the launcher has set up. -/
  | channel (c : Channel)

/-- An open file. -/
structure OpenFile where
  /-- What stands behind it. -/
  backing : Backing
  /-- Where the next bytes are read or written. -/
  position : Nat
  /-- Whether it can be read. -/
  reads : Bool
  /-- Whether it can be written to. -/
  writes : Bool
  /-- Whether all that is written goes to the end. -/
  appends : Bool

/-- A pipe. -/
structure Pipe where
  /-- What was written and not yet read. -/
  content : Bytes
  /-- The number of these bytes. -/
  size : Nat
  /-- The path under which it can be opened, if it has one. -/
  place : Option Path

/-- A number under which a process knows an open file. -/
structure Descriptor where
  /-- The number. -/
  number : Nat
  /-- Which of the open files it stands for. -/
  file : Nat
  /-- Whether a program that replaces this one does not get it. -/
  withheld : Bool

/-- A process. -/
structure Process where
  /-- Its number. -/
  pid : Nat
  /-- The number of the process that made it. -/
  parent : Nat
  /-- The number of the group that it belongs to. -/
  group : Nat
  /-- What it does next. -/
  task : Task
  /-- When it does that. -/
  ready : Nat
  /-- Whether it waits for another process to do something. -/
  blocked : Bool
  /-- Until when it waits at most. -/
  deadline : Option Nat
  /-- The number of the file that it waits to have opened. -/
  opening : Option Nat
  /-- Whether a signal has stopped it. -/
  stopped : Bool
  /-- How it ended, if it has ended. -/
  ending : Option Ending
  /-- Its open files. -/
  descriptors : List Descriptor
  /-- The directory that it is in. -/
  directory : Path
  /-- The permissions that new files do not get. -/
  mask : Nat
  /-- The signals that it ignores. -/
  ignored : List Nat
  /-- The signals that it keeps in mind. -/
  watched : List Nat
  /-- The signals that it has got and kept in mind, newest first. -/
  arrived : List Nat
  /-- The signals that wait until it lets them through. -/
  withheld : List Nat := []
  /-- The signals that are waiting, newest first. -/
  waiting : List Nat := []
  /-- The file that it executes, if that is a program itself. -/
  executes : Option Path := none
  /-- The name of what it executes. -/
  title : Bytes := []
  /-- The arguments that it was given. -/
  args : List Bytes := []
  /-- How much it gets of what is limited otherwise than usual. -/
  limits : List (Resource × Limit) := []
  /-- How far it lets others go first. -/
  niceness : Int := 0

/-- The files, the open files, the pipes and the processes. -/
structure World where
  /-- The files. -/
  files : FileSystem
  /-- All files ever opened. -/
  opened : Array OpenFile
  /-- All pipes ever made. -/
  pipes : Array Pipe
  /-- The processes, oldest first. -/
  processes : List Process
  /-- The number of the process that was launched last. -/
  first : Nat
  /-- The number of the process that launches the others. -/
  host : Nat
  /-- The number of the next process. -/
  nextPid : Nat
  /-- The time. -/
  now : Nat
  /-- What was written to the streams of the launcher, newest first. -/
  written : List (Channel × Bytes)
  /-- What the launcher was told of the launched process while it lived, newest first. -/
  reports : List WaitAnswer
  /-- What the launcher will be told of it when it goes on itself. -/
  untold : Option WaitAnswer := none
  /-- Which of the open files are locked, and how. -/
  locks : List (Nat × Lock) := []

namespace Process

/-- Whether the process still does something. -/
def isAlive (p : Process) : Bool :=
  p.ending.isNone

/-- The open file of a number. -/
def file? (p : Process) (number : Nat) : Option Nat :=
  (p.descriptors.find? (·.number = number)).map (·.file)

/-- Forgets a number. -/
def forget (p : Process) (number : Nat) : Process :=
  { p with descriptors := p.descriptors.filter (·.number ≠ number) }

/-- Gives an open file a number. -/
def give (p : Process) (number file : Nat) : Process :=
  { p.forget number with
    descriptors := ⟨number, file, false⟩ :: (p.forget number).descriptors }

/-- The first free number from a least one on. -/
def freeNumber (p : Process) (least : Nat) : Nat :=
  ((List.range (p.descriptors.length + 1)).map (· + least)).find?
    (fun n => p.descriptors.all (·.number ≠ n)) |>.getD least

/-- The permissions of a file that the process creates. -/
def newMode (p : Process) (mode : Nat) : Nat :=
  mode &&& (0o777 ^^^ p.mask)

/-- How much a process gets of something. -/
def limit (p : Process) (r : Resource) : Limit :=
  (p.limits.lookup r).getD <| match r with
    | .core => ⟨some 0, some 0⟩
    | .stack => ⟨some 0x800000, none⟩
    | .locked => ⟨some 0x800000, some 0x800000⟩
    | .openFiles => ⟨some 0x100000, some 0x100000⟩
    | .priority => ⟨some 0, some 0⟩
    | _ => ⟨none, none⟩

/-- Keeps a signal in mind, and stops waiting for anything else. -/
def remember (p : Process) (number now : Nat) : Process :=
  { p with
    arrived := if p.arrived.contains number then p.arrived else number :: p.arrived
    blocked := false
    ready := if p.blocked ∨ p.deadline.isSome then now else p.ready }

end Process

namespace World

/-- The process of a number. -/
def process? (w : World) (pid : Nat) : Option Process :=
  w.processes.find? (·.pid = pid)

/-- Changes the process of a number. -/
def update (w : World) (pid : Nat) (f : Process → Process) : World :=
  { w with processes := w.processes.map fun p => if p.pid = pid then f p else p }

/-- Puts a process in the place of the one of its number. -/
def put (w : World) (p : Process) : World :=
  w.update p.pid fun _ => p

/-- Lets all processes that wait try again. -/
def wake (w : World) : World :=
  { w with processes := w.processes.map fun p =>
      if p.blocked then { p with blocked := false, ready := max p.ready w.now } else p }

/-- The time, in billionths of a second. -/
def clock (w : World) : Int :=
  Stamp.timeAfter w.now

/-- The entry at a path is changed. -/
def touch (w : World) (path : Path) : World :=
  { w with files := w.files.setStamp path { w.files.stamp path with modified := w.clock } }

/-- A new entry was made at a path, with permissions if it is a directory. -/
def stampNew (w : World) (path : Path) (mode : Nat) : World :=
  ({ w with files := w.files.setStamp path ⟨mode, w.clock, w.clock⟩ }).touch path.dropLast

/-- The directory in which processes find what is known of them. -/
def processRoot : Path := [utf8 "proc"]

/-- What is known of a process, as entries below a path: its title, its arguments, and the numbers
of its open files. -/
def entriesAbout (title : Bytes) (args : List Bytes) (numbers : List Nat) (top : Path) :
    List (Path × Node) :=
  let entry := fun (name : String) (node : Node) => (top ++ [utf8 name], node)
  [(top, .directory),
   entry "comm" (.file (title ++ [0x0A]) 0o644),
   entry "cmdline" (.file (args.flatMap (· ++ [0])) 0o444),
   entry "cwd" .here,
   entry "mem" (.damaged [] ⟨5⟩),
   entry "fd" .directory] ++
  numbers.map fun n => (top ++ [utf8 "fd", utf8 (toString n)], .descriptor n)

/-- Whether a path speaks of processes. -/
def isAboutProcesses (path : Bytes) : Bool :=
  (path.splitOn slash).contains (utf8 "proc")

/-- The files as they look from a process. -/
def filesOf (w : World) (p : Process) : FileSystem :=
  { w.files with current := p.directory }

/-- The files as they look from a process that uses a path. If it speaks of processes, what is known
of them is among the files. -/
def filesFor (w : World) (p : Process) (path : Bytes) : FileSystem :=
  let fs := w.filesOf p
  if isAboutProcesses path ∨ processRoot.isPrefixOf p.directory then
    let self := processRoot ++ [utf8 "self"]
    let about := fun (q : Process) (top : Path) =>
      entriesAbout q.title q.args (q.descriptors.map (·.number)) top
    let others := w.processes.flatMap fun q => about q (processRoot ++ [utf8 (toString q.pid)])
    let lasting := fs.entries.filter fun e => !self.isPrefixOf e.1
    { fs with entries := lasting ++ about p self ++ others }
  else fs

/-- Whether some process has the file at a path open to write to it. -/
def isWrittenTo (w : World) (path : Path) : Bool :=
  w.processes.any fun p => p.isAlive && p.descriptors.any fun d =>
    match w.opened[d.file]? with
    | some o => o.writes && (match o.backing with
      | .file f => f = path
      | _ => false)
    | none => false

/-- Whether some process executes the file at a path. -/
def isExecuted (w : World) (path : Path) : Bool :=
  w.processes.any fun p => p.isAlive && p.executes = some path

/-- Whether some process has a pipe open for one of its directions. -/
def pipeInUse (w : World) (number : Nat) (direction : OpenFile → Bool) : Bool :=
  w.processes.any fun p => p.isAlive && p.descriptors.any fun d =>
    match w.opened[d.file]? with
    | some o =>
      match o.backing with
      | .pipe n => n = number && direction o
      | _ => false
    | none => false

/-! ### Ends and signals -/

/-- Whether one process was made by another. -/
def isChild (w : World) (child parent : Nat) : Bool :=
  match w.process? child with
  | some p => p.parent = parent
  | none => false

/-- A process ends. Its children belong to nobody then, and nobody waits for those that have ended.
The first process stays for the launcher. -/
def finish (w : World) (pid : Nat) (ending : Ending) : World :=
  let left := w.processes.filter fun p => !(p.parent = pid && !p.isAlive)
  let orphaned := left.map fun p => if p.parent = pid then { p with parent := 1 } else p
  let wanted := pid = w.first || pid = w.host ||
    orphaned.any fun p => p.isAlive && w.isChild pid p.pid
  let remaining := orphaned.filterMap fun p =>
    if p.pid ≠ pid then some p
    else if wanted then
      some { p with ending := some ending, descriptors := [], blocked := false, stopped := false }
    else none
  let told := remaining.map fun p =>
    if p.watched.contains Signal.chld.number ∧ w.isChild pid p.pid then
      p.remember Signal.chld.number w.now
    else p
  { w with processes := told }.wake

/-- What a signal does to a process that has not chosen otherwise. -/
def usualEffect (number : Nat) : Signal.Effect :=
  match Signal.ofNumber? number with
  | some s => s.effect
  | none => .terminate

/-- Tells the launcher that its process was stopped, or keeps that for it while it is stopped
itself. -/
def tellStop (w : World) (s : Signal) : World :=
  if (w.process? w.host).any (·.stopped) then { w with untold := some (.stopped s) }
  else { w with reports := .stopped s :: w.reports }

/-- Lets a stopped process go on. The launcher is then told what was kept for it; that its process
was stopped is no news any more once that goes on. -/
def resume (w : World) (pid : Nat) : World :=
  let resumed := w.update pid fun p => { p with stopped := false, ready := max p.ready w.now }
  if pid = w.host then { resumed with reports := w.untold.toList ++ w.reports, untold := none }
  else if pid = w.first then { resumed with untold := none }
  else resumed

/-- A process gets a signal. -/
def deliver (w : World) (pid number : Nat) : World :=
  match w.process? pid with
  | none => w
  | some p =>
    if !p.isAlive then w
    else
      let w := if number = Signal.cont.number then w.resume pid else w
      if number = Signal.kill.number then w.finish pid (.killed number)
      else if number = Signal.stop.number then halt w p number
      else if p.withheld.contains number then
        w.update pid fun p =>
          if p.waiting.contains number then p else { p with waiting := number :: p.waiting }
      else if p.ignored.contains number then w
      else if p.watched.contains number then
        w.update pid (·.remember number w.now)
      else
        match usualEffect number with
        | .terminate => w.finish pid (.killed number)
        | .stop => halt w p number
        | _ => w
where
  /-- The process stops; the launcher is told if it is the first. -/
  halt (w : World) (p : Process) (number : Nat) : World :=
    if p.stopped then w
    else
      let w := w.update p.pid fun p => { p with stopped := true }
      match Signal.ofNumber? number with
      | some s => if p.pid = w.first then w.tellStop s else w
      | none => w

end World

end CommandShell
