import CommandShell.Script.Execute

/-!
# Running scripts

Commands are read one line after the other, with the lines that they go on in, and each is executed
before the next is read. A script begins with the variables of its environment and with options and
parameters from its arguments; it is given as an argument, as a file or on the input.
-/

namespace CommandShell.Script

/-- A script before it has begun. -/
def Shell.initial (name : Bytes) (pid : Nat) : Shell where
  name := name
  command := none
  bindings := []
  functions := []
  aliases := []
  parameters := []
  options := []
  status := 0
  filledStatus := 0
  line := 0
  errorLine := 0
  functionLine := 0
  nested := 0
  loops := 0
  skip := .none
  documents := #[]
  sources := []
  traps := []
  pending := []
  trapStatus := none
  jobs := []
  lastBackground := none
  pid := pid
  directory := []
  found := []
  saved := []
  locals := []
  output := []
  optionPlace := (1, none)

namespace Act

/-! ### Reading -/

/-- The number of bytes that are read of a file at once. -/
def chunkSize : Nat := 8191

/-- Reads more of the innermost text; the answer is whether there was more. -/
def readMore : Nat → Act Bool
  | 0 => return false
  | fuel + 1 => do
    match (← get).sources with
    | [] => return false
    | o :: rest =>
      match o.file with
      | none => return false
      | some fd =>
        match ← call (.read fd chunkSize) with
        | .ok [] => return false
        | .ok bytes =>
          let more := bytes.filter (· ≠ 0)
          modify fun s => { s with sources := { o with text := o.text ++ more } :: rest }
          return true
        | .error e => if e = .interrupted then readMore fuel else return false

/-- Reads the next command of the innermost text; there is none at its end. -/
def nextCommand : Nat → Bool → Act (Option Tree)
  | 0, _ => return none
  | fuel + 1, complete => do
    let s ← get
    match s.sources with
    | [] => return none
    | o :: rest =>
      let complete := complete || o.file.isNone
      let show_ : Bytes → Act Unit := fun left => do
        if s.options.contains 'v'.toUInt8 ∧ o.file.isSome then
          emit 2 (o.text.take (o.text.length - left.length))
      let start := Reader.start o.pushed o.text complete o.line s.aliases s.documents
      match Parser.line.run start with
      | .ok (t, r) =>
        show_ r.text
        let left : Origin :=
          { o with
            pushed := r.pushed
            text := r.text
            line := r.line
            atEnd := r.again && r.last = .endOfFile }
        set { s with sources := left :: rest, documents := r.documents }
        return t
      | .error .more =>
        let more ← readMore rounds
        nextCommand fuel (!more)
      | .error (.senseless line complaint) =>
        show_ []
        modify fun s => { s with errorLine := line }
        fail (utf8 ("Syntax error: " ++ complaint))

/-- Executes a request, with nested ones to a limited depth. -/
def perform : Nat → Runner
  | 0, _ => throw .finish
  | fuel + 1, request => do
    let again : Runner := fun r => perform fuel r
    match request with
    | .tree t tested last => tree again t tested last
    | .rounds until_ condition body tested status =>
      loopRounds again until_ condition body tested status
    | .commands status tested last =>
      match ← nextCommand rounds false with
      | none => return status
      | some t =>
        let atEnd := ((← get).sources.head?.map (·.atEnd)).getD false
        let i ← tree again t tested (last && atEnd)
        let status := match t with
          | .empty => status
          | _ => i
        if (← get).skip ≠ .none then return status
        else again (.commands status tested last)

/-- More requests than any script has nested. -/
def requests : Nat := 0x100000000000

/-- A way to execute anything. -/
def runner : Runner :=
  perform requests

/-! ### Beginning -/

/-- A variable of the environment. -/
def imported? (entry : Bytes) : Option Variable :=
  let name := entry.takeWhile (· ≠ 0x3D)
  if name.length < entry.length ∧ Word.isName name then
    some ⟨name, some (entry.drop (name.length + 1)), true, false⟩
  else none

/-- The variables that every script has. -/
def ownVariables (parent : Nat) : List Variable :=
  let own := fun (name value : String) => Variable.mk (utf8 name) (some (utf8 value)) false false
  [own "IFS" " \t\n", own "OPTIND" "1", own "PPID" (toString parent)]

/-- The variables that a script has unless its environment says otherwise. -/
def usualVariables : List Variable :=
  let own := fun (name value : String) => Variable.mk (utf8 name) (some (utf8 value)) false false
  [⟨utf8 "PATH", some systemPath, false, false⟩, own "PS1" "# ", own "PS2" "> ", own "PS4" "+ "]

/-- Sets up the variables of a script. -/
def setUpVariables (parent : Nat) (environment : List Bytes) : Act Unit := do
  for v in usualVariables do
    modify fun s => s.putVariable v
  for entry in environment do
    match imported? entry with
    | some v => modify fun s => s.putVariable v
    | none => pure ()
  for v in ownVariables parent do
    modify fun s => s.putVariable v

/-- Sets up the directory of a script. The name that the environment gives it is taken over if it is
one of the directory. -/
def setUpDirectory : Act Unit := do
  let named := (← get).setting "PWD"
  if named.head? = some slash then
    match ← call (.facts named true), ← call (.facts [0x2E] true) with
    | .ok a, .ok b =>
      setDirectory (if a.location = b.location then some named else none) false
    | _, _ => setDirectory none false
  else setDirectory none false

/-- Executes a script as its arguments say. -/
def begin_ (args environment : List Bytes) (parent : Nat) : Act Unit := do
  setUpVariables parent environment
  setUpDirectory
  let t ← takeOptions true (args.length + 1) args.tail false
  match t.command, t.words with
  | true, [] => fail (utf8 "-c requires an argument")
  | true, text :: words =>
    modify fun s => { s with name := words.headD s.name, parameters := words.tail }
    checkTerminal
    modify fun s => { s with line := 1, errorLine := 1 }
    let fromInput ← option 's'
    modify fun s => { s with sources := [⟨[], text, none, 1, false⟩, ⟨[], [], none, 1, true⟩] }
    let _ ← runner (.commands 0 false (!fromInput))
    if fromInput then readFrom 0
  | false, [] =>
    modify fun s => { s with options := 0x73 :: s.options.filter (· ≠ 0x73) }
    checkTerminal
    readFrom 0
  | false, words =>
    if ← option 's' then
      modify fun s => { s with parameters := words }
      checkTerminal
      readFrom 0
    else
      let name := words.headD []
      let fd ← openSource name
      modify fun s => { s with name := name, parameters := words.tail }
      checkTerminal
      readFrom fd
where
  /-- Executes the commands of an open file. -/
  readFrom (fd : Nat) : Act Unit := do
    modify fun s => { s with sources := [⟨[], [], some fd, 1, false⟩] }
    let _ ← runner (.commands 0 false false)

end Act

/-- The program that executes scripts. -/
def program (args environment : List Bytes) : Task :=
  Program.task fun next =>
    .call .self fun self =>
      let (pid, parent) := self
      let whole : Act Unit := do
        Act.conclude Act.runner (← Act.attempt (Act.begin_ args environment parent))
      (whole.run (Shell.initial (args.headD []) pid)) fun r => next r.2.status

end CommandShell.Script
