import CommandShell.Machine.Search
import CommandShell.Tool.Input
import CommandShell.Tool.Words

/-!
# Tools that run other programs

A program is run with another environment, with its name looked up, or for a limited time. The
status of the tool tells a program that was not found from one that could not be run.
-/

namespace CommandShell.Tool

namespace Work

/-- The process becomes another program. There is a result only if that fails. -/
def become (args environment : List Bytes) : Work Errno :=
  let front := utf8 "PATH="
  let path := (environment.find? (front.isPrefixOf ·)).map (·.drop front.length)
  ExceptT.lift (StateT.lift fun next => Search.execute path args environment next)

/-- The status of a tool that cannot run a program. -/
def statusOf (e : Errno) : Nat :=
  if e = .noEntry then 127 else 126

/-- Makes a process that does some work and exits; the result is its number. -/
def spawn (work : Work Unit) : Work Nat := do
  let d ← get
  let child : StateT Desk Program Nat := do
    let _ ← work.run
    conclude
  ExceptT.lift (StateT.lift (Program.fork (Program.task do
    let r ← child.run { d with pending := [], size := 0 }
    return r.1)))

/-- What a command of the shell writes. -/
def outputOf (command : Bytes) : Work Bytes := do
  match ← call .makePipe with
  | .error _ => return []
  | .ok (reading, writing) =>
    let pid ← spawn do
      let _ ← call (.redirect writing 1)
      let _ ← call (.close writing)
      let _ ← call (.close reading)
      let words := [utf8 "sh", utf8 "-c", command]
      let environment := (← get).environment
      let _ : Errno ← ExceptT.lift (StateT.lift (Program.exec (utf8 "/bin/sh") words environment))
      exit 127
    let _ ← call (.close writing)
    let (output, _) ← (Source.ofOpen reading).rest
    let _ ← call (.close reading)
    let _ ← call (.wait (some pid) none)
    return output

end Work

open Work

/-! ### Signals by their names -/

/-- The number of the first signal without a meaning of its own. -/
def firstReal : Nat := 34

/-- The word for a signal. -/
def signalWord (n : Nat) : String :=
  match Signal.ofNumber? n with
  | some s => s.shortName
  | none =>
    if n = firstReal then "RTMIN"
    else if n = 64 then "RTMAX"
    else if n < firstReal + 16 then s!"RTMIN+{n - firstReal}"
    else s!"RTMAX-{64 - n}"

/-- The number of the signal that a word stands for. -/
def signalOf? (word : Bytes) : Option Nat :=
  if word ≠ [] ∧ word.all Amount.isDigit then
    let n := Amount.count word
    if n ≤ 64 then some n else none
  else
    let upper := word.map fun b => if 0x61 ≤ b ∧ b ≤ 0x7A then b - 0x20 else b
    let name := if (utf8 "SIG").isPrefixOf upper then upper.drop 3 else upper
    (List.range 65).find? fun n => n ≠ 0 && utf8 (signalWord n) = name

/-! ### With another environment -/

namespace Environment

/-- The name of a variable, from its setting. -/
def nameOf (entry : Bytes) : Bytes :=
  entry.takeWhile (· ≠ 0x3D)

/-- Sets a variable, in the place that it has. -/
def set (environment : List Bytes) (entry : Bytes) : List Bytes :=
  if environment.any fun e => nameOf e = nameOf entry then
    environment.map fun e => if nameOf e = nameOf entry then entry else e
  else environment ++ [entry]

/-- Takes a variable away. -/
def unset (environment : List Bytes) (name : Bytes) : List Bytes :=
  environment.filter fun e => nameOf e ≠ name

/-- The value of a variable. -/
def value? (environment : List Bytes) (name : Bytes) : Option Bytes :=
  (environment.find? fun e => nameOf e = name).map (·.drop (name.length + 1))

/-- How far a text has been cut into words. -/
structure Cutting where
  /-- The words, last first. -/
  words : List Bytes
  /-- The word that is not at its end, last byte first. -/
  word : Option Bytes
  /-- The quotation mark that is open. -/
  quote : Option UInt8

/-- Adds a byte to the word. -/
def Cutting.add (c : Cutting) (b : UInt8) : Cutting :=
  { c with word := some (b :: c.word.getD []) }

/-- Ends the word. -/
def Cutting.finish (c : Cutting) : Cutting :=
  match c.word with
  | some w => { c with words := w.reverse :: c.words, word := none }
  | none => c

/-- The byte that a letter after a backslash stands for. -/
def escaped? (b : UInt8) : Option UInt8 :=
  match b with
  | 0x66 => some 0x0C
  | 0x6E => some 0x0A
  | 0x72 => some 0x0D
  | 0x74 => some 0x09
  | 0x76 => some 0x0B
  | _ => if (utf8 "\"#$'\\").contains b then some b else none

/-- Cuts a text into words. Quotation marks and backslashes keep bytes from their meaning, and
variables are replaced. -/
def cut (environment : List Bytes) : Nat → Bytes → Cutting → Except Bytes (List Bytes)
  | 0, _, c => .ok c.finish.words.reverse
  | fuel + 1, text, c =>
    let single := c.quote = some 0x27
    match text with
    | [] =>
      if c.quote.isSome then .error (utf8 "no terminating quote in -S string")
      else .ok c.finish.words.reverse
    | 0x5C :: b :: rest =>
      if single ∧ b ≠ 0x27 ∧ b ≠ 0x5C then
        cut environment fuel rest ((c.add 0x5C).add b)
      else if b = 0x5F then
        if c.quote.isSome then cut environment fuel rest (c.add 0x20)
        else cut environment fuel rest c.finish
      else if b = 0x63 then
        if c.quote.isSome then
          .error (utf8 "'\\c' must not appear in double-quoted -S string")
        else .ok c.finish.words.reverse
      else
        match escaped? b with
        | some x => cut environment fuel rest (c.add x)
        | none => .error (utf8 "invalid sequence '\\" ++ [b] ++ utf8 "' in -S")
    | [0x5C] => .error (utf8 "invalid backslash at end of string in -S")
    | b :: rest =>
      if c.quote = some b then cut environment fuel rest { c with quote := none }
      else if (b = 0x27 ∨ b = 0x22) ∧ c.quote.isNone then
        cut environment fuel rest { c with quote := some b, word := some (c.word.getD []) }
      else if (b = 0x20 ∨ (0x09 ≤ b ∧ b ≤ 0x0D)) ∧ c.quote.isNone then
        cut environment fuel rest c.finish
      else if b = 0x23 ∧ c.word.isNone ∧ c.quote.isNone then .ok c.finish.words.reverse
      else if b = 0x24 ∧ !single then
        let inner := rest.tail.takeWhile (· ≠ 0x7D)
        let name := inner.takeWhile fun x =>
          x = 0x5F || (0x41 ≤ x && x ≤ 0x5A) || (0x61 ≤ x && x ≤ 0x7A) || (0x30 ≤ x && x ≤ 0x39)
        if rest.head? ≠ some 0x7B ∨ name = [] ∨ name ≠ inner ∨
            rest.length ≤ inner.length + 1 then
          .error (utf8 "only $\x7bVARNAME\x7d expansion is supported, error at: " ++ text)
        else
          let value := (value? environment name).getD []
          cut environment fuel (rest.drop (inner.length + 2))
            (if value = [] then c else value.foldl Cutting.add c)
      else cut environment fuel rest (c.add b)

/-- The options of `env`. -/
def switches : List Switch :=
  [.flag "i" "ignore-environment", .flag "0" "null", .valued "u" "unset", .valued "C" "chdir",
   .valued "S" "split-string", .flag "v" "debug", ⟨"", "block-signal", .optional⟩,
   ⟨"", "default-signal", .optional⟩, ⟨"", "ignore-signal", .optional⟩,
   .flag "" "list-signal-handling"]

/-- The blank that stands where the letter of an option should, as the first thing that is wrong
with the options. -/
def blankOption? : List Bytes → Option UInt8
  | (0x2D :: b :: letters) :: rest =>
    if b = 0x2D then blankOption? (if letters = [] then [] else rest)
    else
      let front := (b :: letters).takeWhile (utf8 "iv0").contains
      match (b :: letters).drop front.length with
      | [] => blankOption? rest
      | c :: value =>
        if c = 0x20 ∨ (0x09 ≤ c ∧ c ≤ 0x0D) then some c
        else if (utf8 "uCS").contains c then
          blankOption? (if value = [] then rest.tail else rest)
        else none
  | _ => none
termination_by args => args.length
decreasing_by all_goals
  simp only [List.length_cons]
  (try split) <;> (try simp only [List.length_tail, List.length_nil]) <;> omega

/-- Replaces the first argument that is to be cut into words by these words. -/
def splitFirst (environment : List Bytes) : List Bytes → Except Bytes (List Bytes)
  | [] => .ok []
  | arg :: rest =>
    let word := utf8 "--split-string="
    let text : Option (Bytes × Bytes × List Bytes) :=
      if word.isPrefixOf arg then some ([], arg.drop word.length, rest)
      else
        match arg with
        | 0x2D :: letters =>
          let front := letters.takeWhile (utf8 "iv0").contains
          match letters.drop front.length with
          | 0x53 :: more =>
            let lead : Bytes := if front = [] then [] else 0x2D :: front
            match more, rest with
            | [], r :: rest => some (lead, r, rest)
            | _, _ => some (lead, more, rest)
          | _ => none
        | _ => none
    match text with
    | some (front, text, rest) =>
      (cut environment (text.length + 1) text ⟨[], none, none⟩).map fun words =>
        (if front = [] then [] else [front]) ++ words ++ rest
    | none =>
      match arg with
      | 0x2D :: letters =>
        if arg = utf8 "--" ∨ letters = [] then .ok (arg :: rest)
        else
          let option := letters.dropWhile (utf8 "iv0").contains
          if option = [0x75] ∨ option = [0x43] then
            match rest with
            | [] => .ok [arg]
            | value :: more => (splitFirst environment more).map fun words => arg :: value :: words
          else (splitFirst environment rest).map (arg :: ·)
      | _ => .ok (arg :: rest)

/-! #### What signals lead to -/

/-- What is to be set for signals. -/
structure Wishes where
  /-- What they lead to, last first. -/
  reactions : List (Nat × Reaction)
  /-- Those that have to wait. -/
  withheld : List Nat
  /-- Those that are let through. -/
  let_ : List Nat

/-- The signals that can be named. -/
def everySignal : List Nat :=
  (List.range 65).filter fun n => n ≠ 0 && n ≠ 32 && n ≠ 33

/-- Whether a process can choose what a signal does. -/
def isChoosable (n : Nat) : Bool :=
  n ≠ Signal.kill.number && n ≠ Signal.stop.number

/-- The signals that a list of words with commas between them names. -/
def signalsOf (words : Bytes) : Work (List Nat) :=
  ((words.splitOn 0x2C).filter (· ≠ [])).mapM fun word =>
    match signalOf? word with
    | some (n + 1) => return n + 1
    | _ => misused 125 (Quote.plain word ++ utf8 ": invalid signal")

/-- What options say about signals. Without names, all signals are meant. -/
def wishesOf : List Given → Wishes → Work Wishes
  | [], w => return w
  | g :: rest, w => do
    let chosen ← match g.key, g.value with
      | "block-signal", some words => signalsOf words
      | "default-signal", some words => signalsOf words
      | "ignore-signal", some words => signalsOf words
      | _, _ => pure (everySignal.filter isChoosable)
    let others := fun (l : List Nat) => l.filter (!chosen.contains ·)
    wishesOf rest <| match g.key with
      | "block-signal" =>
        { w with withheld := others w.withheld ++ chosen, let_ := others w.let_ }
      | "default-signal" =>
        { w with
          reactions := chosen.map (·, .usual) ++ w.reactions
          withheld := others w.withheld, let_ := others w.let_ ++ chosen }
      | "ignore-signal" => { w with reactions := chosen.map (·, .ignore) ++ w.reactions }
      | _ => w

/-- Sets what was wished for. -/
def grant (w : Wishes) : Work Unit := do
  for n in everySignal do
    match w.reactions.lookup n with
    | some r =>
      if !isChoosable n then
        fail 125 (utf8 s!"failed to set signal action for signal {n}: Invalid argument")
      let _ ← call (.react n r)
    | none => pure ()
  call (.withhold (w.withheld.filter isChoosable) true)
  call (.withhold w.let_ false)

/-- Says which signals do not do what they usually do. -/
def listReactions : Work Unit := do
  let (withheld, ignored) ← call .withheld
  for n in everySignal do
    let words := (if withheld.contains n then ["BLOCK"] else []) ++
      (if ignored.contains n then ["IGNORE"] else [])
    if words ≠ [] then
      let name := utf8 (signalWord n)
      let pad := fun (width : Nat) (text : Bytes) =>
        List.replicate (width - text.length) (0x20 : UInt8)
      let number := utf8 (toString n)
      emit (name ++ pad 10 name ++ utf8 " (" ++ pad 2 number ++ number ++ utf8 "): " ++
        utf8 (",".intercalate words ++ "\n"))

/-- Goes to the directory that was asked for. -/
def enter (directory : Option Bytes) : Work Unit := do
  match directory with
  | none => return ()
  | some directory =>
    match ← call (.enter directory) with
    | .ok () => pure ()
    | .error e =>
      fail 125 (utf8 "cannot change directory to " ++ Quote.shell directory ++
        utf8 (": " ++ e.libraryText))

end Environment

/-- Runs a program with another environment, or writes it. -/
def env (args : List Bytes) : Work Unit := do
  let given := (← get).environment
  let args ← match Environment.splitFirst given args with
    | .ok words => pure words
    | .error e => fail 125 e
  match Environment.blankOption? args with
  | some b =>
    say (utf8 "invalid option -- '" ++ [b] ++ utf8 "'")
    say (utf8 "use -[v]S to pass options in shebang lines")
    refer 125
  | none => pure ()
  let f ← Options.read Environment.switches false 125 args
  let wishes ← Environment.wishesOf f.given ⟨[], [], []⟩
  let (bare, operands) := match f.operands with
    | [0x2D] :: rest => (true, rest)
    | rest => (f.has "i", rest)
  let unset := f.given.filterMap fun g => if g.key = "u" then g.value else none
  for name in if bare then [] else unset do
    if name = [] ∨ name.contains 0x3D then
      fail 125 (utf8 "cannot unset " ++ Quote.plain name ++ utf8 ": Invalid argument")
  let start := if bare then [] else unset.foldl Environment.unset given
  let settings := operands.takeWhile fun a => a.contains 0x3D
  let command := operands.drop settings.length
  let environment := settings.foldl Environment.set start
  if f.has "v" then
    if bare then emit (utf8 "cleaning environ\n")
    else for name in unset do emit (utf8 "unset:    " ++ name ++ [0x0A])
    for entry in settings do emit (utf8 "setenv:   " ++ entry ++ [0x0A])
  if f.has "0" ∧ command ≠ [] then
    misused 125 (utf8 "cannot specify --null (-0) with command")
  if f.has "C" ∧ command = [] then
    misused 125 (utf8 "must specify command with --chdir (-C)")
  if command = [] then
    for entry in environment do
      put (entry ++ if f.has "0" then [0] else [0x0A])
  else
    Environment.grant wishes
    if f.has "list-signal-handling" then Environment.listReactions
    if f.has "v" then
      match f.value? "C" with
      | some directory => emit (utf8 "chdir:    " ++ Quote.shell directory ++ [0x0A])
      | none => pure ()
    Environment.enter (f.value? "C")
    if f.has "v" then
      emit (utf8 "executing: " ++ command.headD [] ++ [0x0A])
      for (a, i) in command.zipIdx do
        emit (utf8 s!"   arg[{i}]= " ++ Quote.plain a ++ [0x0A])
    let e ← become command environment
    let name := command.headD []
    say (Quote.plain name ++ utf8 (": " ++ e.libraryText))
    if e = .noEntry ∧ name.contains 0x20 then
      say (utf8 "use -[v]S to pass options in shebang lines")
    exit (statusOf e)

/-! ### Under other conditions -/

/-- Becomes the program of a command; what goes wrong with that ends the work. -/
def becomeOrFail (what : Bytes) (command : List Bytes) : Work Unit := do
  let e ← become command (← get).environment
  say (what ++ Quote.shell (command.headD []) ++ utf8 (": " ++ e.libraryText))
  exit (statusOf e)

/-- Runs a program that is left alone by the end of a terminal. -/
def nohup (args : List Bytes) : Work Unit := do
  let f ← Options.read [] false 125 args
  if f.operands = [] then missingOperand 125
  let _ ← call (.react Signal.hup.number .ignore)
  becomeOrFail (utf8 "failed to run command ") f.operands

/-- Whether an argument is a number after a dash. The number may have a sign of its own. -/
def isAdjustment (arg : Bytes) : Bool :=
  match arg with
  | 0x2D :: 0x2D :: b :: _ => Amount.isDigit b
  | 0x2D :: 0x2B :: b :: _ => Amount.isDigit b
  | 0x2D :: b :: _ => Amount.isDigit b
  | _ => false

/-- Arguments in which a number after a dash is one after the option for it. -/
def niceArguments : List Bytes → List Bytes
  | [] => []
  | arg :: rest =>
    if isAdjustment arg then (utf8 "-n" ++ arg.tail) :: niceArguments rest
    else if arg = utf8 "-n" ∨ arg = utf8 "--adjustment" then
      match rest with
      | [] => [arg]
      | value :: more => arg :: value :: niceArguments more
    else if arg.head? = some 0x2D then arg :: niceArguments rest
    else arg :: rest

/-- Runs a program that is not in a hurry. -/
def nice (args : List Bytes) : Work Unit := do
  let f ← Options.read [.valued "n" "adjustment"] false 125 (niceArguments args)
  match f.value? "n" with
  | some text =>
    let digits := match text with
      | 0x2D :: rest => rest
      | 0x2B :: rest => rest
      | _ => text
    if digits = [] ∨ !digits.all Amount.isDigit then
      fail 125 (utf8 "invalid adjustment " ++ Quote.plain text)
    if f.operands = [] then
      misused 125 (utf8 "a command must be given with an adjustment")
  | none => pure ()
  if f.operands = [] then
    match ← call (.yield 0) with
    | .ok n => putLine (utf8 (toString n))
    | .error _ => pure ()
  else
    let text := (f.value? "n").getD (utf8 "10")
    let size : Int := Amount.count (text.filter Amount.isDigit)
    match ← call (.yield (if text.head? = some 0x2D then -size else size)) with
    | .ok _ => pure ()
    | .error e => say (utf8 ("cannot set niceness: " ++ e.libraryText))
    becomeOrFail [] f.operands

/-- Waits for a process, for a time at most. Each time that this is over the process gets a signal,
and so do all others of its group, if it is to share it. -/
def superviseFor (name : Bytes) (pid : Nat) (verbose whole : Bool) :
    Nat → List (Nat × Nat) → Bool → Work (Option Ending × Bool)
  | 0, _, late => return (none, late)
  | fuel + 1, plan, late => do
    let now : Nat ← call .time
    let deadline := (plan.head?.filter (·.1 ≠ 0)).map fun p => now + p.1
    let ended : Except Errno (Option (Nat × Ending)) ← call (.wait (some pid) deadline)
    match ended with
    | .ok (some (_, ending)) => return (some ending, late)
    | .ok none =>
      match plan with
      | [] => return (none, late)
      | (_, signal) :: rest =>
        if verbose then
          say (utf8 ("sending signal " ++ signalWord signal ++ " to command ") ++ Quote.plain name)
        let _ ← call (.signal pid signal)
        if whole then
          let _ ← call (.react signal .ignore)
          let _ ← call (.signal 0 signal)
          if signal ≠ Signal.kill.number ∧ signal ≠ Signal.cont.number then
            let _ ← call (.signal pid Signal.cont.number)
            let _ ← call (.signal 0 Signal.cont.number)
        superviseFor name pid verbose whole fuel rest true
    | .error _ => superviseFor name pid verbose whole fuel plan late

/-- Runs a program for a time at most. -/
def timeout (args : List Bytes) : Work Unit := do
  let f ← Options.read [.valued "k" "kill-after", .valued "s" "signal", .flag "v" "verbose",
    .flag "" "preserve-status", .flag "" "foreground"] false 125 args
  let span : Bytes → Work Nat := fun text =>
    match span? text with
    | some n => return n
    | none => misused 125 (utf8 "invalid time interval " ++ Quote.plain text)
  let mut last := 0
  let mut signal := Signal.term.number
  for g in f.given do
    match g.key, g.value with
    | "k", some text => last ← span text
    | "s", some text =>
      match signalOf? text with
      | some n => signal := n
      | none => misused 125 (Quote.plain text ++ utf8 ": invalid signal")
    | _, _ => pure ()
  match f.operands with
  | [] => refer 125
  | [_] => refer 125
  | text :: command =>
    let limit ← span text
    let name := command.headD []
    let whole := !f.has "foreground"
    if whole then call .leaveGroup
    let pid ← spawn (becomeOrFail (utf8 "failed to run command ") command)
    let killing := if last = 0 then [] else [(last, Signal.kill.number)]
    let (ending, late) ←
      superviseFor name pid (f.has "v") whole 0x10000 ((limit, signal) :: killing) false
    let raise : Nat → Work Unit := fun n => do
      let (self, _) ← call .self
      let _ ← call (.signal self n)
    match ending with
    | none => exit 125
    | some (.exited status) =>
      exit (if late ∧ !f.has "preserve-status" then 124 else status)
    | some (.killed n) =>
      if !late then raise n
      let kept := f.has "preserve-status" || n = Signal.kill.number
      exit (if late ∧ !kept then 124 else 128 + n)

/-- Runs a program that has no terminal and is in a group of its own. -/
def setsid (args : List Bytes) : Work Unit := do
  let f ← Options.read [.flag "c" "ctty", .flag "f" "fork", .flag "w" "wait"] false 1 args
  if f.operands = [] then misused 1 (utf8 "no command specified")
  let run : Work Unit := do
    call .leaveGroup
    if f.has "c" then
      fail 1 (utf8 ("failed to set the controlling terminal: " ++ Errno.notTerminal.libraryText))
    let e ← become f.operands (← get).environment
    say (utf8 "failed to execute " ++ f.operands.headD [] ++ utf8 (": " ++ e.libraryText))
    exit (statusOf e)
  if !f.has "f" then run
  else
    let pid ← spawn run
    if f.has "w" then
      match ← call (.wait (some pid) none) with
      | .ok (some (_, .exited status)) => exit status
      | _ => fail 1 (utf8 s!"child {pid} did not exit normally")

namespace Locking

/-- The status of a tool that was called in a wrong way. -/
def misuse : Nat := 64

/-- The command that is to be run while a file is locked. -/
def commandOf (words : List Bytes) : Work (List Bytes) := do
  let first := words.headD []
  if first = utf8 "-c" ∨ first = utf8 "--command" then
    match words with
    | [_, text] =>
      let shell := ((← setting? "SHELL").filter (· ≠ [])).getD (utf8 "/bin/sh")
      return [shell, utf8 "-c", text]
    | _ => fail misuse (first ++ utf8 " requires exactly one command argument")
  else return words

/-- Opens the file that is to be locked; it is made if it is not there. -/
def openFile (path : Bytes) : Work Nat := do
  let opened : Except Errno Nat ←
    call (.openFile path { Opening.reading with creates := true })
  let opened : Except Errno Nat ← match opened with
    | .error e =>
      if e = .isDirectory then call (.openFile path .reading) else pure (.error e)
    | .ok fd => pure (.ok fd)
  match opened with
  | .ok fd => return fd
  | .error e =>
    say (utf8 "cannot open lock file " ++ path ++ utf8 (": " ++ e.libraryText))
    exit 66

end Locking

/-- Locks a file, and runs a program while it is locked. -/
def flock (args : List Bytes) : Work Unit := do
  if args = [] then misused Locking.misuse (utf8 "not enough arguments")
  let f ← Options.read [.flag "s" "shared", .flag "x" "exclusive", .flag "e" "", .flag "u" "unlock",
    .flag "n" "nonblocking", .flag "n" "nb", .valued "w" "timeout", .valued "w" "wait",
    .valued "E" "conflict-exit-code", .flag "o" "close", .flag "F" "no-fork",
    .flag "" "verbose"] false Locking.misuse args
  let how : Option Lock := match f.last? ["s", "x", "e", "u"] with
    | some "s" => some .shared
    | some "u" => none
    | _ => some .exclusive
  let mut patience : Option Nat := none
  let mut conflict := 1
  for g in f.given do
    match g.key, g.value with
    | "n", _ => patience := some 0
    | "w", some text =>
      match span? text with
      | some n => patience := some n
      | none => fail Locking.misuse (utf8 "invalid timeout value: " ++ Quote.plain text)
    | "E", some text =>
      if text = [] ∨ !text.all Amount.isDigit then
        fail Locking.misuse (utf8 "invalid exit code: " ++ Quote.plain text)
      if 255 < Amount.count text then
        fail Locking.misuse (utf8 "exit code out of range (expected 0 to 255)")
      conflict := Amount.count text
    | _, _ => pure ()
  if f.has "F" ∧ f.has "o" then
    fail Locking.misuse (utf8 "the --no-fork and --close options are incompatible")
  let (name, fd, command) ← match f.operands with
    | [] => fail Locking.misuse (utf8 "requires file descriptor, file or directory")
    | [text] =>
      if text ≠ [] ∧ text.all Amount.isDigit then
        pure (utf8 (toString (Amount.count text)), Amount.count text, [])
      else fail Locking.misuse (utf8 "bad file descriptor: " ++ Quote.plain text)
    | path :: words =>
      let command ← Locking.commandOf words
      pure (path, ← Locking.openFile path, command)
  let now : Nat ← call .time
  match ← call (.lock fd how (patience.map (now + ·))) with
  | .ok () => pure ()
  | .error e =>
    if e = .tryAgain then
      if f.has "verbose" ∧ patience = some 0 then say (utf8 "failed to get lock")
      if f.has "verbose" ∧ patience ≠ some 0 then say (utf8 "timeout while waiting to get lock")
      exit conflict
    say (name ++ utf8 (": " ++ e.libraryText))
    exit 65
  if f.has "verbose" then
    let later : Nat ← call .time
    let taken := later - now
    let digits := toString (1000000 + taken % 1000000)
    putLine ((← get).name ++
      utf8 s!": getting lock took {taken / 1000000}.{digits.drop 1} seconds")
  if command = [] then return ()
  if f.has "verbose" then
    putLine ((← get).name ++ utf8 ": executing " ++ command.headD [])
  let _ ← flush
  let run : Work Unit := do
    let e ← become command (← get).environment
    say (utf8 "failed to execute " ++ command.headD [] ++ utf8 (": " ++ e.libraryText))
    exit 69
  if f.has "F" then run
  else
    let pid ← spawn do
      if f.has "o" then
        let _ ← call (.close fd)
      run
    match ← call (.wait (some pid) none) with
    | .ok (some (_, .exited status)) => exit status
    | .ok (some (_, .killed number)) => exit (128 + number)
    | _ => exit 71

/-! ### Looking names up -/

/-- Takes the letters in front of names: `a` for all paths, and `s` for none. -/
def whichOptions : List Bytes → Bool → Bool → Work (Bool × Bool × List Bytes)
  | [], all, silent => return (all, silent, [])
  | arg :: rest, all, silent => do
    match arg with
    | [0x2D, 0x2D] => return (all, silent, rest)
    | 0x2D :: b :: more =>
      match (b :: more).find? fun c => c ≠ 0x61 ∧ c ≠ 0x73 with
      | some c =>
        emit (utf8 "Illegal option -" ++ [c, 0x0A])
        put (utf8 "Usage: /usr/bin/which [-as] args\n")
        exit 2
      | none =>
        let letters := b :: more
        whichOptions rest (all || letters.contains 0x61) (silent || letters.contains 0x73)
    | _ => return (all, silent, arg :: rest)

/-- Writes the paths at which programs are found. -/
def which (args : List Bytes) : Work Unit := do
  let (all, silent, names) ← whichOptions args false false
  if names = [] then fault 1
  let path := (← setting? "PATH").getD []
  for name in names do
    let places := if name.contains slash then [name] else Search.candidates path name
    let found ← places.filterM fun p => do
      match ← call (.facts p true) with
      | .ok f => return f.kind = .file && f.mode &&& 0o111 ≠ 0
      | .error _ => return false
    if !silent then
      for p in if all then found else found.take 1 do
        putLine p
    if found = [] then fault 1

end CommandShell.Tool
