import CommandShell.Machine.Image
import CommandShell.Machine.Serve

/-!
# Letting processes run

The process whose turn comes first makes its next call; that takes some time, after which its next
turn comes. A process that waits has no turn until another has changed something. When no process
has a turn any more, all is done that will ever be.
-/

namespace CommandShell

/-- How the programs of a system run: from their arguments and their environment. -/
abbrev Programs := Image → List Bytes → Task

namespace World

/-- How long a call takes, in millionths of a second. -/
def cost : Call → Nat
  | .work span => span
  | .read _ _ => 2
  | .write _ _ => 2
  | _ => 1

/-- How long it takes to make a process. -/
def forkCost : Nat := 60

/-- How long it takes until a new process runs. -/
def birthCost : Nat := 90

/-- How long it takes to load a program. -/
def loadCost : Nat := 400

/-- What comes of a call. -/
def serve (w : World) (p : Process) : (c : Call) → (c.Reply → Task) → Served c.Reply
  | .read fd count, _ => w.read p fd count
  | .write fd bytes, next => w.write p fd bytes next
  | .openFile path how, _ => w.openFile p path how
  | .close fd, _ => w.close p fd
  | .duplicate fd least, _ => w.duplicate p fd least
  | .redirect fd number, _ => w.redirect p fd number
  | .closeOnExec fd, _ => w.closeOnExec p fd
  | .seek fd base offset, _ => w.seek p fd base offset
  | .lock fd how deadline, _ => w.lock p fd how deadline
  | .makePipe, _ => w.makePipe p
  | .facts path through, _ => w.facts p path through
  | .factsOf fd, _ => w.factsOf p fd
  | .children path, _ => w.children p path
  | .linkContent path, _ => w.linkContent p path
  | .change c, _ =>
    match w.changeFiles p c with
    | .ok w => .answered w (.ok ())
    | .error e => .answered w (.error e)
  | .enter path, _ => w.enter p path
  | .directory, _ =>
    .answered w <| match (w.filesOf p).currentDirectory? with
      | some path => .ok path
      | none => .error .noEntry
  | .mask mode, _ => .answered (w.put { p with mask := mode }) p.mask
  | .wait pid deadline, _ => w.wait p pid deadline
  | .signal pid number, _ =>
    match w.send p pid number with
    | (w, r) => .answered w r
  | .react number reaction, _ => w.react p number reaction
  | .remembered, _ => .answered (w.put { p with arrived := [] }) p.arrived.reverse
  | .withhold numbers waiting, _ => w.withhold p numbers waiting
  | .withheld, _ => .answered w (p.withheld, p.ignored)
  | .limit r new, _ => w.limit p r new
  | .yield more, _ => w.yield p more
  | .leaveGroup, _ => .answered (w.put { p with group := p.pid }) ()
  | .sleep span, _ => w.sleep p span
  | .time, _ => .answered w w.now
  | .work _, _ => .answered w ()
  | .self, _ => .answered w (p.pid, p.parent)

/-- Whether an answered call may let others go on. -/
def isStirring : Call → Bool
  | .read _ _ => true
  | .write _ _ => true
  | .openFile _ _ => true
  | _ => false

/-- A process goes on with a task after some time. -/
def proceed (w : World) (pid : Nat) (task : Task) (span : Nat) : World :=
  w.update pid fun p =>
    { p with task := task, ready := w.now + span, blocked := false, deadline := none }

/-- A process makes a call. -/
def callOf (w : World) (p : Process) (c : Call) (next : c.Reply → Task) : World :=
  match w.serve p c next with
  | .answered w a => (if isStirring c then w.wake else w).proceed p.pid (next a) (cost c)
  | .blocked w deadline =>
    w.update p.pid fun p => { p with blocked := true, deadline := deadline }
  | .partly w rest =>
    w.wake.update p.pid fun p => { p with task := rest, blocked := true, deadline := none }
  | .signaled w number a => (w.proceed p.pid (next a) (cost c)).deliver p.pid number

/-- The number of bytes of the name of what a process executes that are kept. -/
def titleLimit : Nat := 15

/-- A process is replaced by a program. -/
def execOf (programs : Programs) (w : World) (p : Process) (path : Bytes)
    (args environment : List Bytes) (next : Errno → Task) : World :=
  match Image.load (w.filesFor p path) w.isWrittenTo path args environment with
  | .error e => w.proceed p.pid (next e) 1
  | .ok image =>
    let p := { p with
      descriptors := p.descriptors.filter (!·.withheld), watched := [], arrived := []
      executes := some image.place, args := image.args
      title := ((path.splitOn slash).getLastD []).take titleLimit }
    ((w.put p).wake).proceed p.pid (programs image environment) loadCost

/-- A process makes another. -/
def forkOf (w : World) (p : Process) (child : Task) (next : Nat → Task) : World :=
  let pid := w.nextPid
  let made : Process := { p with
    pid := pid, parent := p.pid, task := child, ready := w.now + birthCost, blocked := false,
    deadline := none, arrived := [], waiting := [] }
  ({ w with processes := w.processes ++ [made], nextPid := pid + 1 }).proceed p.pid (next pid)
    forkCost

/-- A process does what is next. -/
def turn (programs : Programs) (w : World) (p : Process) : World :=
  match p.task with
  | .exit status => w.finish p.pid (.exited (status % 256))
  | .call c next => w.callOf p c next
  | .fork child next => w.forkOf p child next
  | .exec path args environment next => execOf programs w p path args environment next

/-- When the turn of a process comes, if it does without a change by another. The process that
launches the others does nothing by itself. -/
def turnTime? (w : World) (p : Process) : Option Nat :=
  if !p.isAlive || p.stopped || p.pid = w.host then none
  else if p.blocked then p.deadline
  else some p.ready

/-- The process whose turn comes first, with the time. -/
def nextTurn? (w : World) : Option (Nat × Process) :=
  w.processes.foldl (fun best p =>
    match w.turnTime? p, best with
    | none, _ => best
    | some t, none => some (t, p)
    | some t, some (s, _) => if t < s then some (t, p) else best) none

/-- Gives the process whose turn comes first its turn, if there is one. -/
def step? (programs : Programs) (w : World) : Option World :=
  w.nextTurn?.map fun (t, p) => turn programs { w with now := max w.now t } p

/-- Gives the processes their turns until something is reached, or until none has one any more, or
until so many were given. -/
def runUntil (programs : Programs) (reached : World → Bool) : Nat → World → World
  | 0, w => w
  | fuel + 1, w =>
    if reached w then w
    else
      match w.step? programs with
      | none => w
      | some w => runUntil programs reached fuel w

/-- Gives the processes their turns until a call that is tried again and again is answered. Without
an answer, nothing is left that could lead to one. -/
def runUntilAnswered {α : Type} (programs : Programs) (attempt : World → Served α) :
    Nat → World → World × Option α
  | 0, w => (w, none)
  | fuel + 1, w =>
    match attempt w with
    | .answered w a => (w.wake, some a)
    | .signaled w _ a => (w.wake, some a)
    | .partly w _ => (w, none)
    | .blocked w _ =>
      match w.step? programs with
      | none => (w, none)
      | some w => runUntilAnswered programs attempt fuel w

end World

end CommandShell
