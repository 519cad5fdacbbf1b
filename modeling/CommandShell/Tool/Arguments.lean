import CommandShell.Tool.Number
import CommandShell.Tool.Runner

/-!
# Commands with arguments from the input

The input is cut into arguments, and these are added to a command until it has as many as it may
have; then it is run, and the next one begins. The cutting is a step for each byte, so that a
command is run as soon as its arguments are there, whether the input has come to an end or not.
Between blanks an argument may be in quotation marks, and a backslash keeps a byte from its meaning.
-/

namespace CommandShell.Tool

open Work

namespace Arguments

/-! ### Arguments -/

/-- How the input is cut. -/
inductive Cut where
  /-- At blanks and at the ends of lines. -/
  | words
  /-- At the ends of lines. -/
  | lines
  /-- At a byte; no byte has another meaning. -/
  | pieces (separator : UInt8)
deriving DecidableEq

/-- Where the next byte stands. -/
inductive Place where
  /-- In front of an argument. -/
  | between
  /-- In an argument. -/
  | inside
  /-- Behind a quotation mark of the kind. -/
  | quoted (mark : UInt8)
  /-- Behind a backslash. -/
  | escaped
deriving DecidableEq

/-- How far the input has been cut. -/
structure Scanner where
  /-- Where the next byte stands. -/
  place : Place
  /-- The argument, last byte first. -/
  word : Bytes
  /-- The number of its bytes. -/
  size : Nat
  /-- The byte before the next one. -/
  before : Option UInt8
  /-- Whether nothing of the line was an argument yet. -/
  first : Bool
  /-- Whether there were quotation marks in the line. -/
  marked : Bool

/-- A line of which nothing is read. -/
def Scanner.start : Scanner :=
  ⟨.between, [], 0, none, true, false⟩

/-- What a byte leads to. -/
inductive Event where
  /-- Nothing yet. -/
  | nothing
  /-- The end of an argument. -/
  | argument (word : Bytes)
  /-- The end of an argument and of its line, which may not count. -/
  | line (word : Bytes) (counts : Bool)
  /-- The end of a line before a quotation mark was closed. -/
  | unmatched (mark : UInt8)

/-- Adds a byte to the argument. -/
def Scanner.add (s : Scanner) (b : UInt8) : Scanner :=
  { s with place := .inside, word := b :: s.word, size := s.size + 1, before := some b }

/-- Whether a byte is a blank or a tab. -/
def isBlank (b : UInt8) : Bool :=
  b = 0x20 || b = 0x09

/-- Whether a byte separates arguments. -/
def isSpace (b : UInt8) : Bool :=
  b = 0x20 || (0x09 ≤ b && b ≤ 0x0D)

/-- Reads a byte. -/
def Scanner.step (cut : Cut) (s : Scanner) (b : UInt8) : Scanner × Event :=
  let s' := { s with before := some b }
  match cut with
  | .pieces separator =>
    if b = separator then (.start, .line s.word.reverse true)
    else (s.add b, .nothing)
  | _ =>
    match s.place with
    | .escaped => (s.add b, .nothing)
    | .quoted mark =>
      if b = 0x0A then (s', .unmatched mark)
      else if b = mark then ({ s' with place := .inside, marked := true }, .nothing)
      else ({ s.add b with place := s.place }, .nothing)
    | _ =>
      if s.place = .between ∧ isSpace b then (s', .nothing)
      else if b = 0x0A then
        if s.word = [] ∧ !s.marked then ({ s' with place := .between }, .nothing)
        else (.start, .line s.word.reverse !(s.before.any isBlank))
      else if cut = .words ∧ isSpace b then
        ({ s' with place := .between, word := [], size := 0, first := false },
          .argument s.word.reverse)
      else if b = 0x5C then ({ s' with place := .escaped }, .nothing)
      else if b = 0x27 ∨ b = 0x22 then ({ s' with place := .quoted b }, .nothing)
      else (s.add b, .nothing)

/-- What the end of the input leads to. -/
def Scanner.finish (s : Scanner) : Event :=
  match s.word, s.place with
  | [], _ => .nothing
  | _, .quoted mark => .unmatched mark
  | word, _ => .argument word.reverse

/-- A text with a part of it replaced wherever that stands. There is no result if it gets longer
than there is room for. -/
def replace? (part by_ : Bytes) : Nat → Nat → Bytes → Option Bytes
  | 0, _, _ => none
  | fuel + 1, room, text =>
    if part.isPrefixOf text then
      if room ≤ by_.length then none
      else
        let rest := text.drop part.length
        if rest = [] then some by_
        else (replace? part by_ fuel (room - by_.length) rest).map (by_ ++ ·)
    else
      match text with
      | [] => some []
      | b :: rest =>
        if room ≤ 1 then none
        else (replace? part by_ fuel (room - 1) rest).map (b :: ·)

/-! ### Commands -/

/-- What the commands are like. -/
structure Plan where
  /-- How the input is cut. -/
  cut : Cut
  /-- The argument that ends the input. -/
  last : Option Bytes
  /-- The arguments in front. -/
  front : List Bytes
  /-- The number of bytes that all arguments of a command may have, with one for the end of each. -/
  room : Nat
  /-- The number of arguments of a command from the input. -/
  most : Option Nat
  /-- The number of lines whose arguments a command has. -/
  lines : Option Nat
  /-- What is replaced in the arguments in front by each line. -/
  part : Option Bytes
  /-- Whether it is an error if there is no room for as many arguments as a command should have. -/
  strict : Bool
  /-- Whether each command is shown beforehand. -/
  shows : Bool
  /-- Whether it is asked whether a command is to be run. -/
  asks : Bool
  /-- Whether the commands have no input. -/
  withoutInput : Bool
  /-- The number of commands that run at once, if that is limited. -/
  atOnce : Option Nat
  /-- The variable that says which of the commands that run at once a command is. -/
  slot : Option Bytes

/-- The number of bytes that some arguments take. -/
def sizeOf (words : List Bytes) : Nat :=
  words.foldl (fun n w => n + w.length + 1) 0

/-- How far the work has come. -/
structure Progress where
  /-- How far the input has been cut. -/
  scanner : Scanner
  /-- The arguments of the next command that come from the input, last first. -/
  words : List Bytes
  /-- How many they are. -/
  count : Nat
  /-- The number of bytes of the next command. -/
  size : Nat
  /-- The number of lines that its arguments come from. -/
  lines : Nat
  /-- Whether a command has been run. -/
  ran : Bool
  /-- The commands that run, with the place that each has among those that run at once. -/
  running : List (Nat × Nat)
  /-- The name of the last command. -/
  name : Bytes
  /-- Whether a byte zero in the input was complained about. -/
  warned : Bool

/-- The next command begins. -/
def Progress.anew (plan : Plan) (p : Progress) : Progress :=
  { p with words := [], count := 0, size := sizeOf plan.front }

/-- What is said of the end of a command with which nothing goes on, and the status for it. -/
def fatal? (name : Bytes) : Ending → Option (Nat × Bytes)
  | .exited status =>
    if status = 255 then some (124, name ++ utf8 ": exited with status 255; aborting") else none
  | .killed n => some (125, name ++ utf8 s!": terminated by signal {n}")

/-- Waits until a command has ended. The answer is what is wrong with its end, if nothing can go on
with that. -/
def reap (p : Progress) : Work (Progress × Option (Nat × Bytes)) := do
  let ended : Except Errno (Option (Nat × Ending)) ← call (.wait none none)
  match ended with
  | .ok (some (pid, ending)) =>
    if (p.running.lookup pid).isNone then return (p, none)
    else
      match ending with
      | .exited status => if status ≠ 0 ∧ status ≠ 255 then fault 123
      | _ => pure ()
      return ({ p with running := p.running.filter (·.1 ≠ pid) }, fatal? p.name ending)
  | _ => return ({ p with running := [] }, none)

/-- Ends the work with a status after all commands have ended. A command that has failed decides the
status. -/
def leave {α : Type} (p : Progress) (status : Nat) : Work α := do
  settle 0x100000 p
  let failed := (← get).status
  exit (if failed ≠ 0 then failed else status)
where
  /-- Waits for all commands. -/
  settle : Nat → Progress → Work Unit
    | 0, _ => return ()
    | fuel + 1, p => do
      if p.running = [] then return ()
      let (p, wrong) ← reap p
      match wrong with
      | some (status, what) =>
        say what
        exit status
      | none => settle fuel p

/-- A complaint, and the end of the work. -/
def abandon {α : Type} (p : Progress) (status : Nat) (what : Bytes) : Work α := do
  say what
  leave p status

/-- Waits until no more commands run than so many. -/
def await (limit : Nat) : Nat → Progress → Work Progress
  | 0, p => return p
  | fuel + 1, p => do
    if p.running.length ≤ limit then return p
    let (p, wrong) ← reap p
    match wrong with
    | some (status, what) => abandon p status what
    | none => await limit fuel p

/-- Makes a process that becomes a program. The answer is its number, and why it could not. -/
def start (plan : Plan) (command : List Bytes) (place : Nat) : Work (Nat × Option UInt8) := do
  let _ ← flush
  let (reading, writing) ← match ← call .makePipe with
    | .ok ends => pure ends
    | .error e => fail 1 (utf8 ("could not create pipe before fork: " ++ e.libraryText))
  let _ ← call (.closeOnExec reading)
  let _ ← call (.closeOnExec writing)
  let pid ← spawn do
    if plan.withoutInput then
      let _ ← call (.close 0)
      let _ ← call (.openFile (utf8 "/dev/null") .reading)
    let environment := (← get).environment
    let e ← become command <| match plan.slot with
      | none => environment
      | some name => Environment.set environment (name ++ utf8 s!"={place}")
    let _ ← call (.write writing [e.number.toNat.toUInt8])
    say (command.headD [] ++ utf8 (": " ++ e.libraryText))
    exit (statusOf e)
  let _ ← call (.close writing)
  let failed ← match ← call (.read reading 1) with
    | .ok (b :: _) => pure (some b)
    | _ => pure none
  let _ ← call (.close reading)
  return (pid, failed)

/-- Shows a command. -/
def showCommand (command : List Bytes) : Work Unit :=
  emit ([0x20].intercalate (command.map Quote.name))

/-- Runs a command. -/
def run (plan : Plan) (p : Progress) (command : List Bytes) : Work Progress := do
  let command := command.map fun w => w.takeWhile (· ≠ 0)
  let p := { p with name := command.headD [] }
  if plan.asks then
    showCommand command
    match ← call (.openFile (utf8 "/dev/tty") .reading) with
    | .ok _ => pure ()
    | .error e =>
      abandon p 1 (utf8 ("failed to open /dev/tty for reading: " ++ e.libraryText))
  if plan.shows then
    showCommand command
    emit [0x0A]
  let p ← match plan.atOnce with
    | some n => await (n - 1) 0x100000 p
    | none => pure p
  let place := ((List.range (p.running.length + 1)).find? fun i =>
    !p.running.any fun r => r.2 = i).getD 0
  let (pid, failed) ← start plan command place
  match failed with
  | some number =>
    let _ ← call (.wait (some pid) none)
    leave p (if number.toNat = Errno.noEntry.number.toNat then 127 else 126)
  | none => return { p with ran := true, running := p.running ++ [(pid, place)] }

/-- Runs the command that has been put together. -/
def execute (plan : Plan) (p : Progress) : Work Progress := do
  let p ← run plan p (plan.front ++ p.words.reverse)
  return p.anew plan

/-- Runs the command that has been put together before something is complained about. -/
def executeRest (plan : Plan) (p : Progress) : Work Progress :=
  if plan.part.isSome ∨ p.words = [] ∨ plan.strict then return p else execute plan p

/-- What is said of an argument that no command has room for. -/
def tooLarge : Bytes :=
  utf8 "cannot fit single argument within argument list size limit"

/-- What is said of arguments that a command should have all and has no room for. -/
def tooMany : Bytes :=
  utf8 "argument list too long"

/-- Adds an argument, and runs the command when it has enough of them. -/
def push (plan : Plan) (p : Progress) (word : Bytes) : Work Progress := do
  let size := word.length + 1
  let p ← if p.size + size > plan.room then do
      if p.words = [] then abandon p 1 tooLarge
      if plan.strict ∧ (plan.lines.isSome ∨ plan.most.isSome) then
        abandon p 1 tooMany
      execute plan p
    else pure p
  let p := { p with words := word :: p.words, count := p.count + 1, size := p.size + size }
  if some p.count = plan.most then execute plan p else return p

/-- Runs the command for a line. -/
def runFor (plan : Plan) (part : Bytes) (p : Progress) (line : Bytes) : Work Progress := do
  let mut command := plan.front.take 1
  if sizeOf command > plan.room then abandon p 1 tooLarge
  for w in plan.front.drop 1 do
    match replace? part line (plan.room + w.length + 2) (plan.room - 1) w with
    | none => abandon p 1 (utf8 "command too long")
    | some w =>
      if sizeOf (command ++ [w]) > plan.room then
        abandon p 1 tooMany
      command := command ++ [w]
  run plan p command

/-- Whether an argument ends the input. -/
def isLast (plan : Plan) (word : Bytes) : Bool :=
  plan.last.isSome && plan.last == some (word.takeWhile (· ≠ 0))

/-- Takes an argument in. -/
def take (plan : Plan) (p : Progress) (word : Bytes) : Work Progress :=
  match plan.part with
  | some part => runFor plan part p word
  | none => push plan p word

/-- What is said about a quotation mark that stays open. -/
def unmatched (mark : UInt8) : Bytes :=
  utf8 ("unmatched " ++ (if mark = 0x27 then "single" else "double") ++
    " quote; by default quotes are special to xargs unless you use the -0 option")

/-- What is said about a byte zero. -/
def zeroFound : Bytes :=
  utf8 ("WARNING: a NUL character occurred in the input.  It cannot be passed through in the " ++
    "argument list.  Did you mean to use the --null option?")

/-- Takes a part of the input in. The answer says whether the input ends with it. -/
def feed (plan : Plan) : Bytes → Progress → Work (Progress × Bool)
  | [], p => return (p, false)
  | b :: rest, p => do
    let readsMarks : Bool := match plan.cut with
      | .pieces _ => false
      | _ => true
    if b = 0 ∧ readsMarks ∧ !p.warned then say zeroFound
    let p := { p with warned := p.warned || b = 0 }
    let (scanner, event) := p.scanner.step plan.cut b
    let p := { p with scanner := scanner }
    match event with
    | .nothing =>
      let front := if plan.part.isSome then 0 else sizeOf plan.front
      if scanner.size + front ≥ plan.room then
        let p ← executeRest plan p
        abandon p 1 (utf8 "argument line too long")
      feed plan rest p
    | .argument word =>
      if isLast plan word then return (p, true)
      feed plan rest (← push plan p word)
    | .line word counts =>
      if readsMarks ∧ isLast plan word then return (p, true)
      let p ← take plan p word
      let lines := if counts then p.lines + 1 else p.lines
      if plan.lines.any (· ≤ lines) then
        feed plan rest { ← execute plan p with lines := 0 }
      else feed plan rest { p with lines := lines }
    | .unmatched mark =>
      let p ← executeRest plan p
      abandon p 1 (unmatched mark)

/-- Takes in what the end of the input leaves. -/
def finish (plan : Plan) (p : Progress) : Work Progress := do
  match p.scanner.finish with
  | .argument word =>
    if p.scanner.first ∧ isLast plan word then return p else take plan p word
  | .unmatched mark =>
    let p ← executeRest plan p
    abandon p 1 (unmatched mark)
  | _ => return p

/-- Takes the whole input in. -/
def feedAll (plan : Plan) : Nat → Source → Progress → Work Progress
  | 0, _, p => return p
  | fuel + 1, source, p => do
    match ← call (.read source.fd 4096) with
    | .ok (b :: bytes) =>
      let (p, ended) ← feed plan (b :: bytes) p
      if ended then return p else feedAll plan fuel source p
    | _ => finish plan p

/-! ### Options -/

/-- A number that an option has, not below a number. -/
def numberOf (letter : String) (least : Int) (fatal : Bool) (text : Bytes) : Work Nat := do
  let digits := match text with
    | 0x2D :: rest => rest
    | 0x2B :: rest => rest
    | _ => text
  if digits = [] ∨ !digits.all Amount.isDigit then
    misused 1 (utf8 "invalid number \"" ++ text ++ utf8 s!"\" for -{letter} option")
  let n : Int := if text.head? = some 0x2D then -Amount.count digits else Amount.count digits
  if n < least then
    say (utf8 "value " ++ text ++ utf8 s!" for -{letter} option should be >= {least}")
    if fatal then refer 1
  return (max n least).toNat

/-- The byte that separates arguments, as an option says. -/
def separatorOf (text : Bytes) : Work UInt8 := do
  match text with
  | [b] => return b
  | 0x5C :: b :: rest =>
    let named := [(0x61, 0x07), (0x62, 0x08), (0x66, 0x0C), (0x6E, 0x0A), (0x72, 0x0D),
      (0x74, 0x09), (0x76, 0x0B), (0x5C, 0x5C)].lookup b
    match named with
    | some byte => return byte
    | none =>
      let wrong : Bytes := utf8 "Invalid escape sequence " ++ text ++
        utf8 " in input delimiter specification"
      if b ≠ 0x78 ∧ !Amount.isDigit b then fail 1 (wrong ++ utf8 ".")
      let base : Nat := if b = 0x78 then 16 else 8
      let digits := if b = 0x78 then rest else b :: rest
      let here := digits.takeWhile fun d => (digitValue d).any (· < base)
      let value := here.foldl (fun n d => n * base + (digitValue d).getD 0) 0
      if value > 255 then
        fail 1 (wrong ++ utf8 ("; character values must not exceed " ++
          (if base = 16 then "ff" else "377") ++ "."))
      let after := digits.drop here.length
      if after ≠ [] then
        fail 1 (wrong ++ utf8 "; trailing characters " ++ after ++ utf8 " not recognised.")
      return value.toUInt8
  | _ =>
    fail 1 (utf8 "Invalid input delimiter specification " ++ text ++
      utf8 (": the delimiter must be either a single character or an escape sequence starting " ++
        "with \\."))
where
  /-- The value of a digit. -/
  digitValue (b : UInt8) : Option Nat :=
    if 0x30 ≤ b ∧ b ≤ 0x39 then some (b.toNat - 0x30)
    else if 0x61 ≤ b ∧ b ≤ 0x66 then some (b.toNat - 0x57)
    else if 0x41 ≤ b ∧ b ≤ 0x46 then some (b.toNat - 0x37)
    else none

/-- Says that an option takes another one back. -/
def warnExclusive (option offending : String) : Work Unit :=
  say (utf8 (s!"warning: options {offending} and {option} are mutually exclusive, " ++
    s!"ignoring previous {offending} value"))

/-- The plan after an option that decides how many arguments a command has. -/
def limited (plan : Plan) (g : Given) : Work Plan := do
  let value := g.value.getD []
  match g.key with
  | "I" | "i" =>
    if plan.most.isSome then warnExclusive "--replace/-I/-i" "--max-args"
    if plan.lines.isSome then warnExclusive "--replace/-I/-i" "--max-lines"
    return { plan with part := some (g.value.getD (utf8 "\x7b\x7d")), most := none, lines := none }
  | "L" | "l" =>
    let option := if g.key = "L" then "-L" else "--max-lines/-l"
    if plan.most.isSome then warnExclusive option "--max-args"
    if plan.part.isSome then warnExclusive option "--replace"
    let lines ← match g.value with
      | some text => numberOf g.key 1 true text
      | none => pure 1
    return { plan with lines := some lines, most := none, part := none }
  | "n" =>
    let n ← numberOf "n" 1 true value
    if plan.lines.isSome then warnExclusive "--max-args/-n" "--max-lines"
    if n = 1 ∧ plan.part.isSome then return { plan with lines := none }
    if plan.part.isSome then warnExclusive "--max-args/-n" "--replace"
    return { plan with most := some n, lines := none, part := none }
  | "s" => return { plan with room := min (← numberOf "s" 1 false value) 2088964 }
  | "P" =>
    let n ← numberOf "P" 0 true value
    return { plan with atOnce := if n = 0 then none else some n }
  | "d" => return { plan with cut := .pieces (← separatorOf value) }
  | "0" => return { plan with cut := .pieces 0 }
  | "E" | "e" => return { plan with last := if value = [] then none else some value }
  | "process-slot-var" =>
    if value.contains 0x3D then
      fail 1 (utf8 "option --process-slot-var may not be set to a value which includes \x60='")
    return { plan with slot := some value }
  | _ => return plan

end Arguments

/-- Runs commands with arguments from the input. -/
def xargs (args : List Bytes) : Work Unit := do
  let f ← Options.read [.flag "0" "null", .valued "a" "arg-file", .valued "d" "delimiter",
    .valued "E" "", ⟨"e", "eof", .optional⟩, .valued "I" "", ⟨"i", "replace", .optional⟩,
    .valued "L" "", ⟨"l", "max-lines", .optional⟩, .valued "n" "max-args", .valued "P" "max-procs",
    .flag "p" "interactive", .flag "r" "no-run-if-empty", .valued "s" "max-chars",
    .flag "t" "verbose", .flag "x" "exit", .flag "o" "open-tty", .valued "" "process-slot-var"]
    false 1 args
  let front := if f.operands = [] then [utf8 "echo"] else f.operands
  let mut plan : Arguments.Plan := ⟨.words, none, front, 131072, none, none, none, f.has "x",
    f.has "t" && !f.has "p", f.has "p", true, some 1, none⟩
  for g in f.given do
    plan ← Arguments.limited plan g
  let separates := f.has "0" || f.has "d"
  if plan.last.isSome ∧ separates then
    say (utf8 "warning: the -E option has no effect if -0 or -d is used.\n")
  plan := { plan with
    cut := if plan.part.isSome ∧ !separates then .lines else plan.cut
    strict := plan.strict || plan.part.isSome || plan.lines.isSome }
  let file := (f.value? "a").getD [0x2D]
  let fd ← match ← openInput file with
    | .ok fd => pure fd
    | .error e =>
      fail 1 (utf8 "Cannot open input file " ++ Quote.shell file ++ utf8 (": " ++ e.libraryText))
  if !isInput file then
    let _ ← call (.closeOnExec fd)
    plan := { plan with withoutInput := false }
  if plan.part.isNone ∧ Arguments.sizeOf plan.front > plan.room then fail 1 Arguments.tooLarge
  let p : Arguments.Progress :=
    ⟨.start, [], 0, Arguments.sizeOf plan.front, 0, false, [], front.headD [], false⟩
  let p ← Arguments.feedAll plan 0x10000000 (.ofOpen fd) p
  let p ← if p.words ≠ [] ∨ (plan.part.isNone ∧ !f.has "r" ∧ !p.ran) then Arguments.execute plan p
    else pure p
  Arguments.leave p 0

end CommandShell.Tool
