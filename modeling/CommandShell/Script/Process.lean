import CommandShell.Script.State

/-!
# The processes of a script

A script becomes several processes when commands run in processes of their own. Each process that is
made goes on with a copy of the state, except for what only concerns the script itself: what signals
lead to, and the jobs beside it. The end of a process that is waited for becomes a status.
-/

namespace CommandShell.Script

/-- Something to be executed. -/
inductive Request where
  /-- A command. If it is `tested`, a failure has no consequences of its own; if it is the `last`,
  the process ends with it. -/
  | tree (t : Tree) (tested last : Bool)
  /-- The rest of a loop, after a round with a status. -/
  | rounds (until_ : Bool) (condition body : Tree) (tested : Bool) (status : Nat)
  /-- All commands of the innermost text, the last status being given. If it is the `last` text, the
  process ends with it. -/
  | commands (status : Nat) (tested last : Bool)

/-- A way to execute something. -/
abbrev Runner := Request → Act Nat

namespace Act

/-- The status that an end stands for. -/
def statusOf : Ending → Nat
  | .exited status => status
  | .killed signal => signal + 128

/-- What is said of a process that was waited for and that a signal ended. -/
def mourning (signal : Nat) : Bytes :=
  if signal = Signal.int.number ∨ signal = Signal.pipe.number then []
  else match Signal.ofNumber? signal with
    | some s => utf8 (s.description ++ "\n")
    | none => utf8 ("Real-time signal " ++ toString (signal - 34) ++ "\n")

/-- Makes a process that does something and ends with the status that this leaves. It does not do
what the end of the script leads to. -/
def forkWith (child : Act Unit) : Act Nat :=
  ExceptT.mk fun s next =>
    .fork ((child.run s) fun r => .exit r.2.status) fun pid => next (.ok pid, s)

/-- The process ends with a status. -/
def exitProcess {α : Type} (status : Nat) : Act α :=
  ExceptT.mk fun _ _ => .exit status

/-- Makes a pipe; the answer is the numbers of its two ends. -/
def openEnds : Act (Nat × Nat) := do
  match ← call .makePipe with
  | .ok ends => return ends
  | .error _ => fail (utf8 "Pipe call failed")

/-- What a new process does with the state of the script. It reads no more of the texts; complaints
about where reading is refer to the outermost. -/
def becomeChild : Act Unit := do
  let s ← get
  let caught := s.traps.filter fun t => t.2 ≠ []
  for t in caught do
    if t.1 ≠ 0 then
      let _ ← call (.react t.1 .usual)
  for o in s.sources do
    match o.file with
    | some fd => let _ ← call (.close fd)
    | none => pure ()
  set { s with
    traps := s.traps.filter (fun t => t.2 = [])
    pending := []
    trapStatus := none
    jobs := []
    saved := []
    sources := s.sources.getLast?.toList.map fun (o : Origin) =>
      { o with pushed := [], text := [], file := none } }

/-- The last process of a job. -/
def lastMember? (j : Job) : Option Member :=
  j.members.getLast?

/-- Whether all processes of a job have ended. -/
def isOver (j : Job) : Bool :=
  j.members.all (·.ending.isSome)

/-- The status of a job that is over: that of its last process. -/
def jobStatus (j : Job) : Nat :=
  ((lastMember? j).bind (·.ending)).elim 0 statusOf

/-- A process of a job has ended. -/
def noteEnd (j : Job) (pid : Nat) (e : Ending) : Job :=
  { j with members := j.members.map fun m =>
      if m.pid = pid then { m with ending := some e } else m }

/-- Adds a job; its number is the first that is free. -/
def addJob (members : List Nat) : Act Job := do
  let s ← get
  let kept := s.jobs.filter fun j => !(j.waited && isOver j)
  let used := kept.map (·.number)
  let number := ((List.range (used.length + 1)).map (· + 1)).find? (fun n => !used.contains n)
  let j : Job := ⟨number.getD 1, members.map fun pid => ⟨pid, none⟩, false⟩
  set { s with jobs := j :: kept }
  return j

/-- Forgets a job. -/
def dropJob (number : Nat) : Act Unit :=
  modify fun s => { s with jobs := s.jobs.filter (·.number ≠ number) }

/-- The job of a number as it is now. -/
def job? (number : Nat) : Act (Option Job) := do
  return (← get).jobs.find? (·.number = number)

/-- Whether a job is a certain one. -/
def isMine (mine : Option Job) (j : Job) : Bool :=
  mine.map (·.number) = some j.number

/-- Takes note of the end of a process. If its job is waited for, it may be worth mentioning. -/
def noteChild (pid : Nat) (e : Ending) (awaited : Option Nat) : Act Unit := do
  let s ← get
  let mine := s.jobs.find? fun j => j.members.any fun m => m.pid = pid && m.ending.isNone
  modify fun s =>
    { s with jobs := s.jobs.map fun j => if isMine mine j then noteEnd j pid e else j }
  match e, mine with
  | .killed signal, some j => if awaited = some j.number then emit 2 (mourning signal)
  | _, _ => pure ()

/-- Keeps the signals that have arrived until they are dealt with. -/
def gatherSignals : Act Unit := do
  if (← get).traps.any (fun t => t.2 ≠ []) then
    let arrived ← call .remembered
    modify fun s => { s with
      pending := s.pending ++ (arrived.filter fun n => !s.pending.contains n) }

/-- Waits for a job to be over. -/
def awaitJob : Nat → Nat → Act Nat
  | 0, _ => return 0
  | fuel + 1, number => do
    match ← job? number with
    | none => return 0
    | some j =>
      if isOver j then
        dropJob number
        return jobStatus j
      else
        match ← call (.wait none none) with
        | .ok (some (pid, e)) =>
          noteChild pid e (some number)
          awaitJob fuel number
        | .ok none => awaitJob fuel number
        | .error e =>
          if e = .interrupted then
            gatherSignals
            awaitJob fuel number
          else
            dropJob number
            return 127

/-- More rounds than anything is tried. -/
def rounds : Nat := 0x10000000

/-- Reads an open file to its end. -/
def readAll (fd : Nat) : Nat → Bytes → Act Bytes
  | 0, done => return done
  | fuel + 1, done => do
    match ← call (.read fd 4096) with
    | .ok [] => return done
    | .ok bytes => readAll fd fuel (done ++ bytes)
    | .error e =>
      if e = .interrupted then
        gatherSignals
        readAll fd fuel done
      else return done

/-! ### Beginning and ending -/

/-- Puts back what the last redirections have replaced, or leaves it as it is for good. -/
def popRedirections (forGood : Bool) : Act Unit := do
  match (← get).saved with
  | [] => return ()
  | frame :: rest =>
    modify fun s => { s with saved := rest }
    for (fd, old) in frame do
      match old with
      | some kept =>
        if !forGood then let _ ← call (.redirect kept fd)
        let _ ← call (.close kept)
      | none => if !forGood then let _ ← call (.close fd)

/-- Puts back everything until only so many changes are left. -/
def unwindRedirections (depth : Nat) : Nat → Act Unit
  | 0 => return ()
  | fuel + 1 => do
    if depth < (← get).saved.length then
      popRedirections false
      unwindRedirections depth fuel

/-- What is set up around a command, to be undone when it is broken off. -/
structure Depth where
  /-- The number of changes of open files that are to be put back. -/
  changes : Nat
  /-- The number of functions with variables that are to be put back. -/
  frames : Nat
  /-- The number of texts that commands are read from. -/
  texts : Nat

/-- What is set up now. -/
def depth : Act Depth := do
  let s ← get
  return ⟨s.saved.length, s.locals.length, s.sources.length⟩

/-- Undoes what was set up since. -/
def unwind (d : Depth) : Act Unit := do
  let s ← get
  unwindRedirections d.changes s.saved.length
  for _ in List.range (s.locals.length - d.frames) do
    dropLocals
  modify fun s => { s with sources := s.sources.drop (s.sources.length - d.texts) }

variable (run : Runner)

/-- Executes the commands of a text. -/
def evaluate (text : Bytes) (tested last : Bool) : Act Nat := do
  modify fun s => { s with sources := ⟨[], text, none, 1, false⟩ :: s.sources }
  let status ← run (.commands 0 tested last)
  modify fun s => { s with sources := s.sources.tail }
  return status

/-- What is left to do when the commands of a process have come to their end in some way: what the
end of the script leads to. Variables of functions that were left with the script keep their values
for that. -/
def conclude (r : Except Stop Unit) : Act Unit := do
  let isExit := match r with
    | .error .exit => true
    | _ => false
  let leave : Act Unit := do unwind ⟨0, (← get).locals.length, 0⟩
  leave
  modify fun s => { s with
    status := if isExit then s.trapStatus.getD s.status else s.status
    trapStatus := none
    skip := .none
    loops := 0
    functionLine := 0 }
  let s ← get
  match s.traps.lookup 0 with
  | none => return ()
  | some action =>
    set { s with traps := s.traps.filter (·.1 ≠ 0), trapStatus := some s.status }
    let r ← attempt (evaluate run action false false)
    leave
    match r with
    | .ok _ => modify fun t => { t with status := s.status }
    | .error .exit => modify fun t => { t with status := t.trapStatus.getD t.status }
    | .error _ => return ()

/-- Does something in a process of its own; the answer is the number of that. -/
def fork (child : Act Unit) : Act Nat :=
  forkWith do
    becomeChild
    conclude run (← attempt child)

end Act

end CommandShell.Script
