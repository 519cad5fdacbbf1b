import CommandShell.Script.Builtin.Control

/-!
# Executing commands

A command is executed by what it is made of. The status of the last command decides what happens
next; what a script is to leave, a loop or a function, is noted in its state, and the commands
around it are passed over until that is left.
-/

namespace CommandShell.Script

/-- A simple command with its words filled in. -/
structure Prepared where
  /-- The words in front of the command that say how it is found. -/
  front : List Bytes
  /-- The name of the command and its arguments. -/
  words : List Bytes
  /-- What the name stands for, if it is not a program. -/
  found : Found
  /-- Whether functions are passed over. -/
  plain : Bool
  /-- Whether it is a command of the shell in which an error is the end of the script. -/
  special : Bool
  /-- Whether the variables that are set for it stay. -/
  staying : Bool
  /-- The search path, if it is not the one of the script. -/
  path : Option Bytes

namespace Act

/-- Takes note of the line of a command. -/
def setLine (line : Nat) : Act Unit :=
  modify fun s => { s with
    errorLine := line
    line := if s.functionLine = 0 then line else line + 1 - s.functionLine }

/-- Takes note of a status. -/
def setStatus (status : Nat) : Act Unit :=
  modify fun s => { s with status := status }

/-- Whether some signal leads to commands. -/
def hasTraps : Act Bool := do
  return (← get).traps.any fun t => t.2 ≠ []

/-- Leaves a loop if that is to be done; the answer is what is left with it. -/
def leaveLoop : Act Skip := do
  let s ← get
  match s.skip with
  | .break n =>
    set { s with skip := if n ≤ 1 then .none else .break (n - 1) }
    return s.skip
  | .continue n =>
    if n ≤ 1 then
      set { s with skip := .none }
      return s.skip
    else
      set { s with skip := .continue (n - 1) }
      return .break n
  | other => return other

/-- Whether a loop goes on after what was left. -/
def goesOn : Skip → Bool
  | .none => true
  | .continue _ => true
  | _ => false

variable (run : Runner)

/-! ### Signals -/

/-- Executes what signals that have arrived lead to, one after the other. -/
def answerSignals (status : Nat) : List Nat → Act Unit
  | [] => return ()
  | n :: rest => do
    let s ← get
    if s.skip ≠ .none then return ()
    set { s with pending := s.pending.filter (· ≠ n) }
    match s.traps.lookup n with
    | none => answerSignals status rest
    | some action =>
      let _ ← evaluate run action false false
      if (← get).skip ≠ .function true then setStatus status
      answerSignals status rest

/-- Executes what signals that have arrived lead to. The status is what it was before. -/
def signals : Act Unit := do
  if ← hasTraps then
    gatherSignals
    let s ← get
    if s.pending ≠ [] then
      let before := s.trapStatus
      let status := before.getD s.status
      set { s with trapStatus := some status }
      answerSignals run status (s.pending.mergeSort fun a b => a ≤ b)
      modify fun s => { s with trapStatus := before }

/-! ### Simple commands -/

/-- Fills in words until there is a field; the answer is what has come of that, and the other
words. -/
def firstFields : List Word → Act (List Bytes × List Word)
  | [] => return ([], [])
  | w :: rest => do
    match ← fieldsOf run w with
    | [] => firstFields rest
    | fields => return (fields, rest)

/-- What follows the options that say how a command is found. -/
structure Sought where
  /-- The words that were passed over. -/
  front : List Bytes
  /-- The words after these. -/
  fields : List Bytes
  /-- The words that are not filled in yet. -/
  rest : List Word
  /-- Whether the search path is that of the system. -/
  system : Bool
  /-- Whether there is a command. -/
  some_ : Bool

/-- Passes over the options that say how a command is found. -/
def passOptions : Nat → Sought → Act Sought
  | 0, s => return s
  | fuel + 1, s => do
    let (fields, rest) ← if s.fields = [] then firstFields run s.rest else pure (s.fields, s.rest)
    let s := { s with fields := fields, rest := rest }
    match fields with
    | [] => return { s with some_ := false }
    | word :: more =>
      match word with
      | [0x2D, 0x2D] =>
        let (fields, rest) ← if more = [] then firstFields run rest else pure (more, rest)
        return { s with
          front := s.front ++ [word], fields := fields, rest := rest, some_ := fields ≠ [] }
      | 0x2D :: b :: letters =>
        if (b :: letters).all (· = 0x70) then
          passOptions fuel { s with front := s.front ++ [word], fields := more, system := true }
        else return { s with some_ := false }
      | _ => return s

/-- Finds out what a command is from its first words. -/
def identify : Nat → List Word → Prepared → Act (Prepared × List Word)
  | 0, rest, p => return (p, rest)
  | fuel + 1, rest, p => do
    match p.words with
    | [] => return (p, rest)
    | name :: fields =>
      let s ← get
      match if p.plain then none else s.functions.lookup name with
      | some (line, body) =>
        return ({ p with found := .function line body, staying := false }, rest)
      | none =>
        match builtin? name with
        | none => return ({ p with found := .program, staying := false }, rest)
        | some k =>
          let p := { p with
            found := .builtin
            special := if p.front = [] then k.special else p.special
            staying := if p.front = [] then k.special else false }
          if k.name ≠ "command" then return (p, rest)
          let t ← passOptions run (rest.length + fields.length + 1) ⟨[], fields, rest, false, true⟩
          if t.some_ then
            identify fuel t.rest { p with
              front := p.front ++ name :: t.front
              words := t.fields
              plain := true
              path := if t.system then some systemPath else p.path }
          else return ({ p with words := name :: t.front ++ t.fields }, t.rest)

/-- Whether the other words of a command may set variables. -/
def isAssigning (p : Prepared) : Bool :=
  match p.found, p.words with
  | .builtin, name :: _ => ((builtin? name).map (·.assigning)).getD false
  | _, _ => false

/-- Fills in the words of a command. -/
def prepareWords (words : List Word) : Act Prepared := do
  let (fields, rest) ← firstFields run words
  let (p, rest) ← identify run (words.length + fields.length + 1) rest
    ⟨[], fields, .program, false, false, true, none⟩
  let assigning := isAssigning p
  let others ← rest.mapM fun w => do
    if assigning && Word.isAssignment w then return [← textOf run .assignment w]
    else fieldsOf run w
  return { p with words := p.words ++ others.flatten }

/-- The text in front of commands that are traced. -/
def tracePrompt : Act Bytes := do
  let text := (← get).setting "PS4"
  if text.any fun b => b = 0x24 ∨ b = 0x60 ∨ b = 0x5C then
    let s ← get
    match (Parser.quotedText text).run
        (Reader.start [] [] true 1 s.aliases s.documents) with
    | .ok (word, r) =>
      set { s with documents := r.documents, options := s.options.filter (· ≠ 0x78) }
      let text ← textOf run .quotedText word
      modify fun t => { t with options := s.options }
      return text
    | .error _ => return text
  else return text

/-- Writes a command that is traced, to the open file that complaints went to before its
redirections. -/
def trace (assigned words : List Bytes) : Act Unit := do
  let front ← tracePrompt run
  let s ← get
  let fd := match s.saved.head?.bind (·.lookup 2) with
    | some (some kept) => kept
    | _ => 2
  emit fd (front ++ [0x20].intercalate (assigned ++ words) ++ [0x0A])

/-- Writes what a command of the shell has put together. The answer is whether that went well. -/
def flush : Act Bool := do
  let s ← get
  let bytes := s.output.reverse.flatten
  set { s with output := [] }
  if bytes = [] then return true
  else
    match ← call (.write 1 bytes) with
    | .ok () => return true
    | .error _ => return false

/-- Executes a command of the shell. What it has put together is written even if it fails. -/
def runBuiltin (tested : Bool) (name : Bytes) (args : List Bytes) : Act Unit := do
  let before := (← get).command
  modify fun s => { s with command := some name, output := [] }
  let r ← attempt do
    let status ← builtin run (((builtin? name).map (·.name)).getD "") tested args
    modify fun s => { s with command := some name }
    let written ← flush
    if !written then warn (name ++ utf8 ": I/O error")
    setStatus (if written then status else status ||| 1)
  if r matches .error .error then let _ ← flush
  modify fun s => { s with command := before, output := [] }
  resume r

/-- How many functions can be executed one within the other. -/
def functionLimit : Nat := 1000

/-- Executes a function. -/
def runFunction (tested : Bool) (line : Nat) (body : Tree) (args : List Bytes) : Act Unit := do
  let s ← get
  if functionLimit ≤ s.nested then
    fail (utf8 s!"Maximum function recursion depth ({functionLimit}) reached")
  set { s with
    parameters := args
    functionLine := line
    nested := s.nested + 1
    loops := 0
    optionPlace := (1, none) }
  let r ← attempt (run (.tree body tested false))
  modify fun t => { t with
    parameters := s.parameters
    functionLine := s.functionLine
    nested := s.nested
    loops := s.loops
    optionPlace := s.optionPlace
    skip := match t.skip with
      | .function _ => .none
      | other => other }
  let _ ← resume r

/-- Executes a program, in a process of its own unless it is the last command of this one. -/
def runProgram (last : Bool) (p : Prepared) : Act Unit := do
  if last ∧ !(← hasTraps) then become p.words p.path
  else
    let pid ← forkWith (become p.words p.path)
    let j ← addJob [pid]
    setStatus (← awaitJob rounds j.number)

/-- Executes a command whose words are filled in. -/
def runPrepared (tested last : Bool) (p : Prepared) : Act Unit := do
  match p.words with
  | [] => setStatus (← get).filledStatus
  | name :: args =>
    match p.found with
    | .builtin =>
      let before := (← get).loops
      let d ← depth
      match ← attempt (runBuiltin run tested name args) with
      | .ok () => reap rounds
      | .error .error =>
        if p.special then throw .error
        unwind d
        modify fun s => { s with loops := before }
      | .error other => throw other
    | _ =>
      match ← find name (!p.plain) p.path with
      | .function line body => runFunction run tested line body args
      | .nothing e =>
        warn (name ++ utf8 ": " ++ reason "not found" e)
        setStatus 127
      | _ => runProgram last p

/-- Sets the variables of a command; the answer is how they are traced. -/
def assign (p : Prepared) (assignments : List Word) : Act (List Bytes) :=
  assignments.mapM fun w => do
    let text ← textOf run .assignment w
    if !p.staying then keep (text.takeWhile (· ≠ 0x3D))
    let isExec := p.words.head? = some (utf8 "exec") && decide (1 < p.words.length)
    setFrom text (!p.staying || isExec)
    return text

/-- Executes a simple command. -/
def simple (line : Nat) (assignments words : List Word) (redirections : List Redirection)
    (tested last : Bool) : Act Nat := do
  let _ ← call (.work 5)
  setLine line
  modify fun s => { s with filledStatus := 0 }
  let p ← prepareWords run words
  let d ← depth
  if !p.staying then modify fun s => { s with locals := [] :: s.locals }
  let changes ← redirections.mapM (prepare run)
  if ← pushRedirections run changes then
    let assigned ← assign run p assignments
    if ← option 'x' then trace run assigned (p.front ++ p.words)
    runPrepared run tested last p
    popRedirections (p.words.head? = some (utf8 "exec") && p.found matches .builtin)
  else
    setStatus 2
    if p.special then throw .error
  unwind d
  return (← get).status

/-! ### Commands of other commands -/

/-- What a process in the background does with its signals and its input. -/
def detach (first : Bool) : Act Unit := do
  for signal in [Signal.int, .quit] do
    let _ ← call (.react signal.number .ignore)
  if first then
    let _ ← call (.close 0)
    let _ ← call (.openFile (utf8 "/dev/null") .reading)

/-- Looks for the program of a command before that is executed. -/
def lookAhead (t : Tree) : Act Unit := do
  match t with
  | .simple _ _ (w :: _) _ =>
    match Word.plain? w with
    | some name => if Word.isName name then let _ ← find name true none
    | none => pure ()
  | _ => pure ()

/-- Starts the commands of a pipeline; the answer is the numbers of their processes. -/
def startPipe (background tested : Bool) : List Tree → Option Nat → List Nat → Act (List Nat)
  | [], input, pids => do
    match input with
    | some fd => let _ ← call (.close fd)
    | none => pure ()
    return pids.reverse
  | t :: rest, input, pids => do
    lookAhead t
    let output : Option (Nat × Nat) ← if rest.isEmpty then pure none
      else do pure (some (← openEnds))
    let pid ← fork run do
      if background then detach pids.isEmpty
      match output with
      | some (reading, _) => let _ ← call (.close reading)
      | none => pure ()
      match input with
      | some fd =>
        if fd ≠ 0 then
          let _ ← call (.redirect fd 0)
          let _ ← call (.close fd)
      | none => pure ()
      match output with
      | some (_, writing) =>
        if writing ≠ 1 then
          let _ ← call (.redirect writing 1)
          let _ ← call (.close writing)
      | none => pure ()
      let _ ← run (.tree t tested true)
    match input with
    | some fd => let _ ← call (.close fd)
    | none => pure ()
    match output with
    | some (_, writing) => let _ ← call (.close writing)
    | none => pure ()
    startPipe background tested rest (output.map (·.1)) (pid :: pids)

/-- Executes a pipeline. -/
def pipe (commands : List Tree) (background tested : Bool) : Act Nat := do
  let pids ← startPipe run background tested commands none []
  let j ← addJob pids
  if background then
    modify fun s => { s with lastBackground := pids.getLast? }
    return 0
  else awaitJob rounds j.number

/-- Executes a command in a process of its own, or in this one if nothing follows. -/
def subshell (line : Nat) (body : Tree) (redirections : List Redirection) (background tested
    last : Bool) : Act Nat := do
  setLine line
  let changes ← redirections.mapM (prepare run)
  if last ∧ !background ∧ !(← hasTraps) then
    becomeChild
    redirectAll run changes
    let _ ← run (.tree body tested true)
    throw .finish
  else
    let pid ← fork run do
      if background then detach true
      redirectAll run changes
      let _ ← run (.tree body (tested && !background) true)
    let j ← addJob [pid]
    if background then
      modify fun s => { s with lastBackground := some pid }
      return 0
    else awaitJob rounds j.number

/-- Executes a command with other open files. -/
def redirected (line : Nat) (body : Tree) (redirections : List Redirection) (tested : Bool) :
    Act Nat := do
  setLine line
  let changes ← redirections.mapM (prepare run)
  let made ← pushRedirections run changes
  let status ← if made then run (.tree body tested false) else pure 2
  popRedirections false
  return status

/-- Executes a command for each of some fields. -/
def forEach (name : Bytes) (body : Tree) (tested : Bool) : List Bytes → Nat → Act Nat
  | [], status => return status
  | field :: rest, _ => do
    let _ ← call (.work 1)
    setVariable name field false
    let status ← run (.tree body tested false)
    if goesOn (← leaveLoop) then forEach name body tested rest status else return status

/-- Counts a loop around what is done. -/
def inLoop (body : Act Nat) : Act Nat := do
  modify fun s => { s with loops := s.loops + 1 }
  let status ← body
  modify fun s => { s with loops := s.loops - 1 }
  return status

/-- Executes the rest of a loop. -/
def loopRounds (until_ : Bool) (condition body : Tree) (tested : Bool) (status : Nat) :
    Act Nat := do
  let _ ← call (.work 1)
  let i ← run (.tree condition true false)
  let skip ← leaveLoop
  match skip with
  | .none =>
    if (i ≠ 0) ≠ until_ then return status
    let status ← run (.tree body tested false)
    if goesOn (← leaveLoop) then run (.rounds until_ condition body tested status)
    else return status
  | .continue _ => run (.rounds until_ condition body tested status)
  | .function _ => return i
  | .break _ => return status

/-- The command of the first arm with a pattern that a text matches. -/
def armOf (text : Bytes) : List (List Word × Tree) → Act (Option Tree)
  | [] => return none
  | (patterns, body) :: rest => do
    if ← matchesSome patterns then return some body else armOf text rest
where
  /-- Whether the text matches one of some patterns. -/
  matchesSome : List Word → Act Bool
    | [] => return false
    | w :: rest => do
      if Pattern.describes (← patternOf run w) text then return true else matchesSome rest

/-- What has come of a command. -/
structure Result where
  /-- The status. -/
  status : Nat
  /-- Whether a failure may be the end of the script. -/
  counts : Bool

/-- Executes the parts of a command. -/
def parts (t : Tree) (tested last : Bool) : Act Result := do
  let done : Act Nat → Act Result := fun a => do
    let status ← a
    setStatus status
    return ⟨status, false⟩
  let counted : Act Nat → Act Result := fun a => do
    let r ← done a
    return { r with counts := true }
  let second : Result → Bool → Tree → Act Result := fun first wanted b => do
    if wanted ∧ (← get).skip = .none then done (run (.tree b tested last)) else return first
  match t with
  | .empty => return ⟨0, false⟩
  | .simple line assignments words redirections =>
    counted (simple run line assignments words redirections tested last)
  | .pipe commands background => counted (pipe run commands background tested)
  | .subshell line body redirections =>
    counted (subshell run line body redirections false tested last)
  | .background line body redirections =>
    counted (subshell run line body redirections true tested last)
  | .redirected line body redirections => done (redirected run line body redirections tested)
  | .both a b =>
    let status ← run (.tree a true false)
    second ⟨status, false⟩ (status = 0) b
  | .either a b =>
    let status ← run (.tree a true false)
    second ⟨status, false⟩ (status ≠ 0) b
  | .sequence a b =>
    let status ← run (.tree a tested false)
    second ⟨status, false⟩ true b
  | .negated body => done do
      let status ← run (.tree body true false)
      return if (← get).skip ≠ .none then status else if status = 0 then 1 else 0
  | .choice condition yes no =>
    let status ← run (.tree condition true false)
    if (← get).skip ≠ .none then return ⟨status, false⟩
    else if status = 0 then done (run (.tree yes tested last))
    else
      match no with
      | .empty => done (return 0)
      | _ => done (run (.tree no tested last))
  | .loop until_ condition body =>
    done (inLoop (loopRounds run until_ condition body tested 0))
  | .each line name words body =>
    done do
      setLine line
      let fields ← words.mapM (fieldsOf run)
      inLoop (forEach run name body tested fields.flatten 0)
  | .select line word arms =>
    done do
      setLine line
      let text ← textOf run .text word
      match ← armOf run text arms with
      | none => return 0
      | some .empty => return 0
      | some body => run (.tree body tested last)
  | .define line name body =>
    done do
      modify fun s => { s with
        functions := (name, line, body) :: s.functions.filter (·.1 ≠ name) }
      return 0

/-- Executes a command. -/
def tree (t : Tree) (tested last : Bool) : Act Nat := do
  let noCommands ← option 'n'
  let r ← if noCommands then pure ⟨0, false⟩ else do
    match t with
    | .empty => pure ⟨0, false⟩
    | _ =>
      signals run
      parts run t tested last
  signals run
  if r.counts ∧ !tested ∧ r.status ≠ 0 ∧ (← option 'e') then throw .finish
  if last then throw .finish
  return r.status

end Act

end CommandShell.Script
