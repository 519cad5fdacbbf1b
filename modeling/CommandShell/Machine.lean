import CommandShell.Launch.Attempt
import CommandShell.Machine.Programs
import CommandShell.Machine.Search

/-!
# The system around the interpreter

A small system with files, programs and processes, on which whole sessions can be followed. The
interpreter is one of its processes. The process of a launch replaces itself by a program, which is
found as the system finds it, and the launcher is answered what happened to that process. Other
processes may go on in the background, from one launch to the next, and may send signals to the
interpreter.

A launch has returned when its process has ended while the interpreter is there to learn of it.
Processes are given their turns until then, or until no turn can change anything any more; a launch
that takes more turns than `World.turns` counts as one that never returns.
-/

namespace CommandShell

/-- The system, apart from the files, which the session keeps. -/
structure Machine where
  /-- Where programs are looked for, if that is set. -/
  searchPath : Option Bytes
  /-- Whether processes vanish when they have ended, so that there is nothing left to wait for. -/
  vanishing : Bool
  /-- Whether waits are interrupted. -/
  interrupting : Bool
  /-- Whether the output of programs goes to a device without room. -/
  outputFull : Bool
  /-- The processes and what they share. -/
  world : World
  /-- Why the interpreter does nothing any more, if that is so. -/
  departure : Option Departure

namespace World

/-- The number of turns after which nobody waits for processes any more. -/
def turns : Nat := 0x10000000

/-- The number of the process that the interpreter is. -/
def hostPid : Nat := 4000

/-- The world in which the interpreter is alone. It ignores the signal that it writes to a pipe
which nobody reads. -/
def start : World :=
  let host : Process :=
    { pid := hostPid, parent := rootPid, group := hostPid, task := .exit 0, ready := 0,
      blocked := false, deadline := none, opening := none, stopped := false, ending := none,
      descriptors := [⟨0, 0, false⟩, ⟨1, 1, false⟩, ⟨2, 2, false⟩], directory := [],
      mask := 0o022, ignored := [Signal.pipe.number], watched := [], arrived := [],
      title := utf8 "lsh", args := [utf8 "lsh"] }
  { files := ⟨[], [], [], []⟩
    opened := #[⟨.null, 0, true, false, false⟩, ⟨.channel .output, 0, false, true, false⟩,
      ⟨.channel .diagnostics, 0, false, true, false⟩, ⟨.full, 0, false, true, false⟩]
    pipes := #[], processes := [host], first := 0, host := hostPid, nextPid := hostPid + 1
    now := 0, written := [], reports := [] }

/-- The world with the files as the interpreter has left them. What it has created since it left
them to other processes is new. -/
def entered (w : World) (files : FileSystem) : World :=
  let new := if w.files.entries.isEmpty then [] else files.entries.drop w.files.entries.length
  let begun := { w with files := files, written := [], reports := [] }
  new.foldl (fun w e => w.stampNew e.1 0)
    (begun.update w.host fun p => { p with directory := files.current })

/-- The files as the interpreter finds them. -/
def hostFiles (w : World) : FileSystem :=
  match w.process? w.host with
  | some host => w.filesOf host
  | none => w.files

/-- The signal that has ended the interpreter, if one has. -/
def killer? (w : World) : Option Nat :=
  match (w.process? w.host).bind (·.ending) with
  | some (.killed signal) => some signal
  | _ => none

/-- Whether a launch has returned: the interpreter has not ended and is not stopped, and the process
that it launched has ended. -/
def hasReturned (w : World) : Bool :=
  match w.process? w.host with
  | none => false
  | some host => host.isAlive && !host.stopped && (w.process? w.first).all fun p => !p.isAlive

/-- Whether it is known what comes of a launch: it has returned, or a signal has ended the
interpreter. -/
def isDecided (w : World) : Bool :=
  w.hasReturned || w.killer?.isSome

/-- Why the interpreter does nothing any more, if it waits for something that will not happen. -/
def departure (w : World) : Departure :=
  match w.killer? with
  | some signal => .killed signal
  | none => .stuck

/-- The interpreter makes a process for a task. -/
def spawned (w : World) (task : Task) (output : Nat) : World :=
  match w.process? w.host with
  | none => w
  | some host =>
    let process : Process := { host with
      pid := w.nextPid, parent := host.pid, task := task, ready := w.now, ignored := []
      descriptors := [⟨0, 0, false⟩, ⟨1, output, false⟩, ⟨2, 2, false⟩] }
    { w with processes := w.processes ++ [process], first := w.nextPid, nextPid := w.nextPid + 1 }

/-- The interpreter has learned of the end of the process that it launched. -/
def reaped (w : World) : World :=
  { w with processes := w.processes.filter (·.pid ≠ w.first), first := 0 }

/-! ### What the interpreter does itself -/

/-- The interpreter tries a call. It has to wait while it is stopped, and once it has ended there is
nothing that it calls. -/
def tryCall {α : Type} (attempt : World → Process → Served α) (w : World) : Served (Option α) :=
  match w.process? w.host with
  | none => .answered w none
  | some host =>
    if !host.isAlive then .answered w none
    else if host.stopped then .blocked w none
    else (attempt w host).map some

/-- Has the interpreter call the system, and other processes go on until it is answered, if it ever
is. -/
def callOfHost {α : Type} (w : World) (attempt : World → Process → Served α) : World × Option α :=
  match w.runUntilAnswered programs (tryCall attempt) turns with
  | (w, answer) => (w, answer.join)

/-- The number of bytes that the interpreter reads at a time. -/
def readingUnit : Nat := 8192

/-- Reads from an open file of the interpreter to its end, if it is ever reached. -/
def readToEnd (w : World) (fd : Nat) (done : Bytes) : Nat → World × Option Reading
  | 0 => (w, none)
  | fuel + 1 =>
    match w.callOfHost fun w host => w.read host fd readingUnit with
    | (w, none) => (w, none)
    | (w, some (.error e)) => (w, some ⟨done, some (.system e)⟩)
    | (w, some (.ok [])) => (w, some ⟨done, none⟩)
    | (w, some (.ok bytes)) => readToEnd w fd (done ++ bytes) fuel

/-- Forgets an open file of the interpreter. -/
def closed (w : World) (fd : Nat) : World :=
  (w.update w.host fun host => host.forget fd).wake

/-- Opens what a path leads to for the interpreter and reads it to its end, if that is ever reached.
All is read before anything is done with it, so nothing comes of a part whose end is never
reached. -/
def readPipe (w : World) (path : Bytes) : World × Option (Except Errno Reading) :=
  match w.callOfHost fun w host => w.openFile host path .reading with
  | (w, none) => (w, none)
  | (w, some (.error e)) => (w, some (.error e))
  | (w, some (.ok fd)) =>
    match w.readToEnd fd [] turns with
    | (w, none) => (w, none)
    | (w, some reading) => (w.closed fd, some (.ok reading))

/-- Opens what a path leads to for the interpreter, to append to it, and closes it, if it is ever
open. -/
def touchPipe (w : World) (path : Bytes) : World × Option (Except Errno Unit) :=
  match w.callOfHost fun w host => w.openFile host path .appending with
  | (w, none) => (w, none)
  | (w, some (.error e)) => (w, some (.error e))
  | (w, some (.ok fd)) => (w.closed fd, some (.ok ()))

end World

namespace Machine

/-- A system whose search path is the usual one. -/
def usual : Machine :=
  ⟨some (utf8 "/usr/bin:/bin"), false, false, false, .start, none⟩

/-- The number of blocks that are followed of a device without end. -/
def deviceBlocks : Nat := 128

/-- The directories, devices and programs of the system. Whatever is random is zero. -/
def installation : List (Path × Node) :=
  let device := fun (name : String) (node : Node) => ([utf8 "dev", utf8 name], node)
  let programs := programTable.map fun p =>
    ([utf8 "usr", utf8 "bin", utf8 p.1], Node.program p.1)
  [([utf8 "dev"], .directory),
   device "null" .null,
   device "zero" (.zero deviceBlocks),
   device "full" (.full deviceBlocks),
   device "random" (.zero deviceBlocks),
   device "urandom" (.zero deviceBlocks),
   device "tty" .terminal,
   device "stdin" (.descriptor 0),
   device "stdout" (.descriptor 1),
   device "stderr" (.descriptor 2),
   ([utf8 "dev", utf8 "fd"], .directory),
   ([utf8 "etc"], .directory),
   ([utf8 "root"], .directory),
   ([utf8 "tmp"], .directory),
   ([utf8 "usr"], .directory),
   ([utf8 "usr", utf8 "bin"], .directory),
   ([utf8 "usr", utf8 "bin", utf8 "sh"], .link (utf8 "dash")),
   ([utf8 "bin"], .link (utf8 "usr/bin")),
   (World.processRoot, .directory)] ++
  World.entriesAbout (utf8 "lsh") [utf8 "lsh"] [0, 1, 2] (World.processRoot ++ [utf8 "self"]) ++
  programs

/-! ### Launching -/

/-- The task of a process that replaces itself by the program its arguments name. If there is none
that it can execute, it says so and exits. -/
def launchTask (m : Machine) (args : List Bytes) : Task :=
  let name := args.headD []
  let environment := utf8 "LC_ALL=C" :: match m.searchPath with
    | some p => [utf8 "PATH=" ++ p]
    | none => []
  let otherwise := fun (e : Errno) =>
    Task.call (.write 2 (utf8 "lsh: " ++ name ++ utf8 (": " ++ e.kernelText ++ "\n"))) fun _ =>
      .exit 1
  Search.execute m.searchPath args environment otherwise

/-- The world when the interpreter has launched a program. -/
def launched (m : Machine) (files : FileSystem) (args : List Bytes) : World :=
  (m.world.entered files).spawned (m.launchTask args) (if m.outputFull then 3 else 1)

/-- The world when it is known what comes of a launch, or when nothing happens any more. -/
def live (m : Machine) (files : FileSystem) (args : List Bytes) : World :=
  (m.launched files args).runUntil programs World.isDecided World.turns

/-- The answer that a process has ended. -/
def finalAnswer : Ending → WaitAnswer
  | .exited status => .exited status
  | .killed signal => .ofSignalNumber signal

/-- Whether an answer is that the process was stopped. -/
def isStop : WaitAnswer → Bool
  | .stopped _ => true
  | _ => false

/-- What the launcher is answered about the process that it launched. -/
def answersFor (m : Machine) (w : World) : KernelAnswers :=
  let ending := (w.process? w.first).bind (·.ending)
  let answers := w.reports.reverse ++ (ending.map finalAnswer).toList
  let seen := if m.vanishing then answers.filter isStop ++ [.failed .noChild] else answers
  ⟨.ok w.first, if m.interrupting then .failed .interrupted :: seen else seen⟩

/-- Launches a program and waits for its end. The records are those of the answers that the
interpreter was there to learn, and their result is learned if the launch returns. -/
def launch (m : Machine) (files : FileSystem) (args : ArgVector) : LaunchReport Machine :=
  match args.block with
  | .error e => ⟨some (.error e), [], [], files, m⟩
  | .ok block =>
    let w := m.live files block.strings
    let attempt := Attempt.ofAnswers args fun _ => m.answersFor w
    let (result, after) :=
      if w.hasReturned then (some attempt.result, { m with world := w.reaped, departure := none })
      else (none, { m with world := w, departure := some w.departure })
    ⟨result, attempt.records, w.written.reverse, w.hostFiles, after⟩

/-! ### Between launches -/

/-- What has come of something that the interpreter does itself. It departs if that never
returns. -/
def report {α : Type} (m : Machine) (w : World) (result : Option (Except Errno α)) :
    AccessReport Machine α :=
  let departure := match result with
    | some _ => none
    | none => some w.departure
  ⟨result.map (·.mapError .system), w.written.reverse, w.hostFiles,
    { m with world := w, departure := departure }⟩

/-- Whether a path leads to a pipe, at whose other end a program may be. -/
def leadsToPipe (files : FileSystem) (path : Bytes) : Bool :=
  match files.locate false path with
  | .ok (.found _ node) => node = .pipe
  | _ => false

/-- Reads a file. -/
def readFile (m : Machine) (files : FileSystem) (path : Bytes) : AccessReport Machine Reading :=
  if leadsToPipe files path then
    match (m.world.entered files).readPipe path with
    | (w, result) => m.report w result
  else .reading m files path

/-- Opens a file to append to it, and closes it. -/
def appendTo (m : Machine) (files : FileSystem) (path : Bytes) : AccessReport Machine Unit :=
  if leadsToPipe files path then
    match (m.world.entered files).touchPipe path with
    | (w, result) => m.report w result
  else .appending m files path

/-- Lets the programs that go on in the background do so until all is quiet. -/
def settle (m : Machine) (files : FileSystem) : AccessReport Machine Unit :=
  let w := (m.world.entered files).runUntil programs (fun _ => false) World.turns
  ⟨some (.ok ()), w.written.reverse, w.hostFiles, { m with world := w }⟩

theorem launch_returns {m : Machine} (h : m.departure = none) (files : FileSystem)
    (args : ArgVector) :
    (m.launch files args).result = none ↔ (m.launch files args).launcher.departure ≠ none := by
  rw [launch]
  cases args.block with
  | error e => exact iff_of_false (Option.some_ne_none _) fun hne => hne h
  | ok block =>
    simp only
    cases (m.live files block.strings).hasReturned <;> simp

/-- What does not return is what the interpreter departs in. -/
theorem report_returns {α : Type} (m : Machine) (w : World) (result : Option (Except Errno α)) :
    (m.report w result).result = none ↔ (m.report w result).launcher.departure ≠ none := by
  cases result <;> simp [report]

theorem readFile_returns {m : Machine} (h : m.departure = none) (files : FileSystem)
    (path : Bytes) :
    (m.readFile files path).result = none ↔ (m.readFile files path).launcher.departure ≠ none := by
  rw [readFile]
  split
  · exact report_returns m _ _
  · exact iff_of_false (Option.some_ne_none _) fun hne => hne h

theorem appendTo_returns {m : Machine} (h : m.departure = none) (files : FileSystem)
    (path : Bytes) :
    (m.appendTo files path).result = none ↔ (m.appendTo files path).launcher.departure ≠ none := by
  rw [appendTo]
  split
  · exact report_returns m _ _
  · refine iff_of_false (AccessReport.result_appending_ne_none m files path) fun hne => ?_
    rw [AccessReport.launcher_appending] at hne
    exact hne h

instance : Launcher Machine where
  launch := launch
  readFile := readFile
  appendTo := appendTo
  settle := settle
  departure? := departure
  returns_launch _ files args h := launch_returns h files args
  returns_readFile _ files path h := readFile_returns h files path
  returns_appendTo _ files path h := appendTo_returns h files path

end Machine

end CommandShell
