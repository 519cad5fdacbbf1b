import CommandShell.Script.Builtin.Naming

/-!
# Commands of the shell about signals and processes

What signals lead to is set here, and signals are sent. The processes that run beside the script can
be listed and waited for.
-/

namespace CommandShell.Script

/-! ### Names of signals -/

/-- The numbers of signals are less than this. -/
def signalCount : Nat := 65

/-- The number of the first signal without a meaning of its own. -/
def firstReal : Nat := 34

/-- The name of a signal; the end of a script counts as one. Some have no name but their number. -/
def signalName (n : Nat) : String :=
  if n = 0 then "EXIT"
  else if firstReal ≤ n then
    let (up, down) := (n - firstReal, signalCount - 1 - n)
    if up = 0 then "RTMIN"
    else if down = 0 then "RTMAX"
    else if up < 16 then s!"RTMIN+{up}" else s!"RTMAX-{down}"
  else
    match Signal.ofNumber? n with
    | some s => if s = .stkflt then toString n else s.shortName
    | none => toString n

/-- The signal that a word stands for, from a least number on. -/
def signal? (least : Nat) (word : Bytes) : Option Nat :=
  if word ≠ [] ∧ word.all Word.isDigit then
    let n := Arithmetic.numberOf 10 word
    if n < signalCount then some n else none
  else
    let upper := word.map fun b => if 0x61 ≤ b ∧ b ≤ 0x7A then b - 0x20 else b
    (List.range signalCount).find? fun n => decide (least ≤ n) && utf8 (signalName n) = upper

namespace Act

/-! ### What signals lead to -/

/-- Sets what a signal leads to, or takes it back. A signal that the script was made to ignore when
it began stays ignored. -/
def setTrap (n : Nat) (action : Option Bytes) : Act Unit := do
  let before := (← get).traps.lookup n
  modify fun s =>
    let others := s.traps.filter (·.1 ≠ n)
    { s with traps := match action with
        | some a => (n, a) :: others
        | none => others }
  if n ≠ 0 then
    let reaction := match action with
      | some [] => Reaction.ignore
      | some _ => .remember
      | none => .usual
    let old : Reaction ← call (.react n reaction)
    if old = .ignore ∧ before ≠ some [] then
      let _ ← call (.react n .ignore)

/-- Sets what some signals lead to. -/
def setTraps (action : Option Bytes) : List Bytes → Act Nat
  | [] => return 0
  | word :: rest => do
    match signal? 0 word with
    | none =>
      emit 2 (utf8 "trap: " ++ word ++ utf8 ": bad trap\n")
      return 1
    | some n =>
      let action := if action = some [0x2D] then none else action
      setTrap n action
      setTraps action rest

/-- Sets or writes what signals lead to. -/
def trap (args : List Bytes) : Act Nat := do
  let (_, words) ← options "" args
  match words with
  | [] =>
    let s ← get
    for n in List.range signalCount do
      match s.traps.lookup n with
      | some action =>
        say (utf8 "trap -- " ++ quote action ++ utf8 (" " ++ signalName n ++ "\n"))
      | none => pure ()
    return 0
  | [word] => setTraps none [word]
  | word :: rest =>
    if word.all Word.isDigit && (signal? 0 word).isSome then setTraps none words
    else setTraps (some word) rest

/-! ### Jobs -/

/-- The job that a word stands for. -/
def jobOf (word : Option Bytes) : Act Job := do
  let jobs := (← get).jobs
  let noSuch : Act Job := fail (utf8 "No such job: " ++ word.getD [])
  let at_ : Nat → String → Act Job := fun n complaint =>
    match jobs[n]? with
    | some j => return j
    | none => fail (utf8 complaint)
  match word with
  | none => at_ 0 "No current job"
  | some (0x25 :: name) =>
    if name = [] ∨ name = [0x2B] ∨ name = [0x25] then at_ 0 "No current job"
    else if name = [0x2D] then at_ 1 "No previous job"
    else if name.all Word.isDigit then
      match jobs.find? fun j => j.number = Arithmetic.numberOf 10 name with
      | some j => return j
      | none => noSuch
    else noSuch
  | some _ => noSuch

/-- Takes note of all processes that have ended, without waiting for others. -/
def reap : Nat → Act Unit
  | 0 => return ()
  | fuel + 1 => do
    if (← get).jobs.any fun j => !isOver j then
      match ← call (.wait none (some 0)) with
      | .ok (some (pid, e)) =>
        noteChild pid e none
        reap fuel
      | _ => pure ()

/-- How the end of a process is described. -/
def describeEnd (e : Option Ending) : Bytes :=
  match e with
  | none => utf8 "Running"
  | some (.exited status) => utf8 (if status = 0 then "Done" else s!"Done({status})")
  | some (.killed n) =>
    match Signal.ofNumber? n with
    | some s => utf8 s.description
    | none => utf8 s!"Real-time signal {n - firstReal}"

/-- A text in a column of some width. -/
def column (width : Nat) (text : Bytes) : Bytes :=
  text ++ List.replicate (max (width - text.length) 1) (0x20 : UInt8)

/-- Writes a job; it is forgotten if it is over. -/
def showJob (place : Nat) (letter : Option UInt8) (j : Job) : Act Unit := do
  let pids := j.members.map fun m => utf8 (toString m.pid)
  if letter = some 0x70 then say ((pids.headD []) ++ [0x0A])
  else
    let mark := if place = 0 then "+" else if place = 1 then "-" else " "
    let front := utf8 s!"[{j.number}] {mark} "
    let state := if isOver j then describeEnd ((lastMember? j).bind (·.ending)) else utf8 "Running"
    if letter = some 0x6C then
      say (column 33 (front ++ pids.headD [] ++ [0x20] ++ state))
      for pid in pids.tail do
        say (column 33
          (utf8 " |\n" ++ List.replicate (front.length) (0x20 : UInt8) ++ pid ++ [0x20]))
      say [0x0A]
    else
      say (column 33 (front ++ state) ++ (pids.tail.flatMap fun _ => utf8 " | ") ++ [0x0A])
    if isOver j then dropJob j.number

/-- Writes jobs. -/
def jobs (args : List Bytes) : Act Nat := do
  let (letters, words) ← options "lp" args
  let letter := letters.getLast?.map (·.1)
  reap rounds
  let all := (← get).jobs
  match words with
  | [] =>
    for (j, place) in all.zipIdx do
      showJob place letter j
  | _ =>
    for word in words do
      let j ← jobOf (some word)
      showJob (all.findIdx fun k => k.number = j.number) letter j
  return 0

/-- A job that is to be put in the foreground or in the background. No job is under the control that
this takes. -/
def controlled (args : List Bytes) : Act Nat := do
  let (_, words) ← options "" args
  let _ ← jobOf words.head?
  fail (utf8 "job " ++ words.headD (utf8 "(null)") ++ utf8 " not created under job control")

/-- The status of a signal that puts an end to waiting, if one has arrived. -/
def interruption : Act (Option Nat) := do
  gatherSignals
  return (← get).pending.head?.map (· + 128)

/-- Waits for the end of a process; the answer is the status of a signal if one comes first. -/
def awaitEnd (awaited : Option Nat) : Nat → Act (Option Nat)
  | 0 => return none
  | fuel + 1 => do
    let ended ← match awaited with
      | some n => do pure (((← job? n).map isOver).getD true)
      | none => do pure ((← get).jobs.all isOver)
    if ended then return none
    else
      match ← interruption with
      | some status => return some status
      | none =>
        match ← call (.wait none none) with
        | .ok (some (pid, e)) =>
          noteChild pid e awaited
          awaitEnd awaited fuel
        | .ok none => awaitEnd awaited fuel
        | .error e => if e = .interrupted then awaitEnd awaited fuel else return none

/-- Waits for some processes, or for all. -/
def wait (args : List Bytes) : Act Nat := do
  let (_, words) ← options "" args
  if words = [] then
    let status ← awaitEnd none rounds
    modify fun s =>
      { s with jobs := s.jobs.map fun j => { j with waited := j.waited || isOver j } }
    return status.getD 0
  else each 127 words
where
  /-- Waits for one after the other; the last status is the answer. -/
  each : Nat → List Bytes → Act Nat
    | status, [] => return status
    | status, word :: rest => do
      let j ← if word.head? = some 0x25 then some <$> jobOf (some word) else do
        let pid ← number word
        pure ((← get).jobs.find? fun j => ((lastMember? j).map (·.pid)) = some pid)
      match j with
      | none => each status rest
      | some j =>
        match ← awaitEnd (some j.number) rounds with
        | some status => return status
        | none =>
          let status := ((← job? j.number).map jobStatus).getD status
          modify fun s =>
            { s with jobs := s.jobs.map fun k =>
                if k.number = j.number then { k with waited := true } else k }
          each status rest

/-! ### Sending signals -/

/-- How `kill` is used. -/
def killUsage : Bytes :=
  utf8 ("Usage: kill [-s sigspec | -signum | -sigspec] [pid | job]... or\n" ++
    "kill -l [exitstatus]")

/-- Writes the names of signals. -/
def listSignals (words : List Bytes) : Act Nat := do
  match words with
  | [] =>
    say (utf8 "0\n")
    for n in (List.range signalCount).tail do
      say (utf8 (signalName n ++ "\n"))
    return 0
  | word :: _ =>
    let n ← number word
    let n := if 128 < n then n - 128 else n
    if 0 < n ∧ n < signalCount then
      say (utf8 (signalName n ++ "\n"))
      return 0
    else fail (utf8 "invalid signal number or exit status: " ++ word)

/-- Sends a signal to processes and jobs. -/
def kill (args : List Bytes) : Act Nat := do
  match args with
  | [] => fail killUsage
  | first :: rest =>
    let direct := match first with
      | 0x2D :: name => signal? 1 name
      | _ => none
    let (signal, list, words) ← match first, direct with
      | 0x2D :: _, some n => pure (some n, false, rest)
      | 0x2D :: _, none => do
        let (letters, words) ← options "ls:" args
        let list := letters.any fun l => l.1 = 0x6C
        let signal ← letters.foldlM (fun (n : Option Nat) l => do
          if l.1 = 0x73 then
            match signal? 1 l.2 with
            | some n => pure (some n)
            | none => fail (utf8 "invalid signal number or name: " ++ l.2)
          else pure n) none
        pure (signal, list, words)
      | _, _ => pure (none, false, args)
    let signal := if list then signal else some (signal.getD Signal.term.number)
    if list ∧ signal.isNone then listSignals words
    else if list ∨ words = [] then fail killUsage
    else
      let mut status := 0
      for word in words do
        let pid : Int ← match word with
          | 0x25 :: _ => do
            let j ← jobOf (some word)
            pure (-(((j.members.head?.map (·.pid)).getD 0 : Nat) : Int))
          | 0x2D :: digits => do pure (-((← number digits) : Int))
          | _ => do pure ((← number word) : Int)
        match ← call (.signal pid (signal.getD 0)) with
        | .ok () => pure ()
        | .error e =>
          warn (utf8 (e.libraryText ++ "\n"))
          status := 1
      return status

/-! ### Limits -/

/-- Writes how long the processes have computed. -/
def times (_ : List Bytes) : Act Nat := do
  let line := "0m0.000000s 0m0.000000s\n"
  say (utf8 (line ++ line))
  return 0

/-- A limit as it is shown. -/
structure ShownLimit where
  /-- What is limited. -/
  title : String
  /-- The letter of its option. -/
  letter : Char
  /-- What the limit is set for. -/
  resource : Resource
  /-- The size of the units in which it is shown. -/
  unit : Nat

/-- The limits in the order in which they are shown. -/
def limits : List ShownLimit :=
  [⟨"time(seconds)", 't', .time, 1⟩, ⟨"file(blocks)", 'f', .fileSize, 512⟩,
   ⟨"data(kbytes)", 'd', .data, 1024⟩, ⟨"stack(kbytes)", 's', .stack, 1024⟩,
   ⟨"coredump(blocks)", 'c', .core, 512⟩, ⟨"memory(kbytes)", 'm', .memory, 1024⟩,
   ⟨"locked memory(kbytes)", 'l', .locked, 1024⟩, ⟨"process", 'p', .processes, 1⟩,
   ⟨"nofiles", 'n', .openFiles, 1⟩, ⟨"vmemory(kbytes)", 'v', .space, 1024⟩,
   ⟨"locks", 'w', .locks, 1⟩, ⟨"rtprio", 'r', .priority, 1⟩]

/-- The limit of a process in the units in which it is shown. -/
def amountOf (hard : Bool) (l : ShownLimit) : Act Bytes := do
  match ← call (.limit l.resource none) with
  | .error _ => return utf8 "unlimited"
  | .ok limit =>
    return utf8 <| match if hard then limit.hard else limit.soft with
      | some n => toString (n / l.unit)
      | none => "unlimited"

/-- The limit that a word asks for. -/
def newLimit (l : ShownLimit) (word : Bytes) : Act (Option Nat) := do
  if word = utf8 "unlimited" then return none
  else if word.all Word.isDigit then return some (Arithmetic.numberOf 10 word * l.unit)
  else fail (utf8 "bad number")

/-- Writes limits, or sets one. -/
def ulimit (args : List Bytes) : Act Nat := do
  let (letters, words) ← options "HSatfdsmcnvplwr" args
  let letters := letters.map fun l => Char.ofNat l.1.toNat
  let kind := (letters.filter fun c => c = 'H' || c = 'S').getLast?
  let letter := ((letters.filter fun c => !"HSa".toList.contains c).getLast?).getD 'f'
  let onlyHard := kind = some 'H'
  match words, limits.find? (·.letter = letter) with
  | [], some l =>
    if letters.contains 'a' then
      for l in limits do
        say (column 21 (utf8 l.title) ++ (← amountOf onlyHard l) ++ [0x0A])
    else say ((← amountOf onlyHard l) ++ [0x0A])
  | word :: rest, some l =>
    if letters.contains 'a' ∨ rest ≠ [] then fail (utf8 "too many arguments")
    let n ← newLimit l word
    let old ← call (.limit l.resource none)
    let old := match old with
      | .ok limit => limit
      | .error _ => ⟨none, none⟩
    let new : Limit :=
      ⟨if onlyHard then old.soft else n, if kind = some 'S' then old.hard else n⟩
    match ← call (.limit l.resource (some new)) with
    | .ok _ => pure ()
    | .error e => fail (utf8 ("error setting limit (" ++ e.libraryText ++ ")"))
  | _, none => pure ()
  return 0

end Act

end CommandShell.Script
