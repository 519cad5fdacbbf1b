import CommandShell.Script.Builtin.Words

/-!
# Commands of the shell that set things up

Variables are exported, fixed, made local, taken away and read from the input; parameters and
options are set; abbreviations are defined.
-/

namespace CommandShell.Script

namespace Act

/-! ### Variables -/

/-- Byte strings in order. -/
def inOrder (names : List Bytes) : List Bytes :=
  names.mergeSort fun a b => decide (a ≤ b)

/-- Writes variables, each after a text in front. -/
def showVariables (front : Bytes) (wanted : Variable → Bool) : Act Unit := do
  let s ← get
  let shown := s.bindings.filter wanted
  for name in inOrder (shown.map (·.name)) do
    let value := match (s.named? name).bind (·.value) with
      | some v => 0x3D :: quote v
      | none => []
    say (front ++ (if front = [] then [] else [0x20]) ++ name ++ value ++ [0x0A])

/-- Checks that a text can be the name of a variable. -/
def checkName (name : Bytes) : Act Unit := do
  if !Word.isName name then fail (name ++ utf8 ": bad variable name")

/-- Gives variables a property, and values if they are given. -/
def declare (args : List Bytes) (front : String) (has : Variable → Bool)
    (give : Variable → Variable) : Act Nat := do
  let (letters, words) ← options "p" args
  if words = [] ∨ letters ≠ [] then
    showVariables (utf8 front) has
    return 0
  for word in words do
    let name := word.takeWhile (· ≠ 0x3D)
    checkName name
    if word.contains 0x3D then setVariable name (word.drop (name.length + 1)) false
    let s ← get
    let v := (s.named? name).getD ⟨name, none, false, false⟩
    modify fun s => s.putVariable (give v)
  return 0

/-- Keeps variables of the script from changes in a function. -/
def makeLocal (args : List Bytes) : Act Nat := do
  if (← get).locals = [] then fail (utf8 "not in a function")
  for word in args do
    if word = [0x2D] then
      modify fun s =>
        match s.locals with
        | [] => s
        | frame :: rest => { s with locals := (.options s.options :: frame) :: rest }
    else
      let name := word.takeWhile (· ≠ 0x3D)
      checkName name
      keep name
      if word.contains 0x3D then setVariable name (word.drop (name.length + 1)) false
  return 0

/-- Takes variables or functions away. -/
def unset (args : List Bytes) : Act Nat := do
  let (letters, words) ← options "vf" args
  let functions := (letters.getLast?.map (·.1)) = some 0x66
  for name in words do
    if functions then
      modify fun s => { s with functions := s.functions.filter (·.1 ≠ name) }
    else
      checkName name
      unsetVariable name
  return 0

/-! ### Parameters and options -/

/-- The options with their letters, in the order in which they are shown. -/
def optionNames : List (String × Char) :=
  [("errexit", 'e'), ("noglob", 'f'), ("ignoreeof", 'I'), ("interactive", 'i'), ("monitor", 'm'),
   ("noexec", 'n'), ("stdin", 's'), ("xtrace", 'x'), ("verbose", 'v'), ("vi", 'V'),
   ("emacs", 'E'), ("noclobber", 'C'), ("allexport", 'a'), ("notify", 'b'), ("nounset", 'u'),
   ("privileged", 'p'), ("nolog", '\x01'), ("debug", '\x02')]

/-- Sets an option or takes it back. -/
def setOption (letter : UInt8) (on : Bool) : Act Unit := do
  if !optionNames.any fun o => o.2.toUInt8 = letter then
    fail (utf8 "Illegal option -" ++ [letter])
  modify fun s =>
    let others := s.options.filter (· ≠ letter)
    { s with options := if on then letter :: others else others }

/-- A list of the options, as a table or as commands that set them. -/
def optionList (asTable : Bool) (isOn : UInt8 → Bool) : Bytes :=
  let line := fun (o : String × Char) =>
    let on := isOn o.2.toUInt8
    if asTable then
      let fill := String.ofList (List.replicate (16 - o.1.length) ' ')
      o.1 ++ fill ++ (if on then "on" else "off") ++ "\n"
    else "set " ++ (if on then "-o " else "+o ") ++ o.1 ++ "\n"
  (if asTable then utf8 "Current option settings\n" else []) ++
    optionNames.flatMap fun o => utf8 (line o)

/-- Sets an option of a name, or writes all of them. While the shell begins, none is off yet. -/
def setNamedOption (starting : Bool) (name : Option Bytes) (on : Bool) : Act Unit := do
  match name with
  | none =>
    if starting then emit 1 (optionList on fun _ => true)
    else say (optionList on (← get).options.contains)
  | some name =>
    match optionNames.find? fun o => utf8 o.1 = name with
    | some o => setOption o.2.toUInt8 on
    | none => fail (utf8 "Illegal option -o " ++ name)

/-- What options in front of words came to. -/
structure Started where
  /-- The words after them. -/
  words : List Bytes
  /-- Whether commands are given by a word. -/
  command : Bool
  /-- Whether parameters were asked to be set, even to none. -/
  ended : Bool

/-- Sets the options in front of words. When the shell begins, a command may be among them. -/
def takeOptions (starting : Bool) : Nat → List Bytes → Bool → Act Started
  | 0, words, command => return ⟨words, command, false⟩
  | fuel + 1, words, command => do
    match words with
    | [] => return ⟨[], command, false⟩
    | word :: rest =>
      match word with
      | [0x2D] =>
        if !starting then
          modify fun s =>
            { s with options := s.options.filter fun b => b ≠ 0x78 ∧ b ≠ 0x76 }
        return ⟨rest, command, false⟩
      | [0x2D, 0x2D] => return ⟨rest, command, true⟩
      | 0x2D :: letters =>
        let (rest, asks) ← letter true letters rest false
        takeOptions starting fuel rest (command || asks)
      | 0x2B :: letters =>
        let (rest, asks) ← letter false letters rest false
        takeOptions starting fuel rest (command || asks)
      | _ => return ⟨words, command, false⟩
where
  /-- The letters of a word. -/
  letter (on : Bool) : Bytes → List Bytes → Bool → Act (List Bytes × Bool)
    | [], rest, asks => return (rest, asks)
    | b :: letters, rest, asks => do
      if starting ∧ b = 0x63 then letter on letters rest true
      else if starting ∧ b = 0x6C then letter on letters rest asks
      else if b = 0x6F then
        setNamedOption starting rest.head? on
        letter on letters rest.tail asks
      else
        setOption b on
        if starting ∧ on ∧ b = 0x69 then setOption 0x6D true
        letter on letters rest asks

/-- Takes the option back that asks for jobs of a terminal: there is none. What a script starts to
do its work beside it does not look for one. -/
def checkTerminal : Act Unit := do
  if ← option 'm' then
    let (pid, _) ← call .self
    if pid = (← get).pid then
      warn (utf8 "can't access tty; job control turned off")
      setOption 'm'.toUInt8 false

/-- Sets parameters and options, or writes the variables. -/
def set_ (args : List Bytes) : Act Nat := do
  if args = [] then
    showVariables [] (·.value.isSome)
    return 0
  let t ← takeOptions false (args.length + 1) args false
  checkTerminal
  if t.words ≠ [] ∨ t.ended then
    modify fun s => { s with parameters := t.words, optionPlace := (1, none) }
  return 0

/-- Drops parameters from the front. -/
def shift (args : List Bytes) : Act Nat := do
  let n ← match args with
    | [] => pure 1
    | word :: _ => number word
  let s ← get
  if s.parameters.length < n then fail (utf8 "can't shift that many")
  set { s with parameters := s.parameters.drop n, optionPlace := (1, none) }
  return 0

/-! ### Abbreviations -/

/-- Defines or writes abbreviations. -/
def alias_ (args : List Bytes) : Act Nat := do
  let show_ : Bytes × Bytes → Act Unit := fun a =>
    say (a.1 ++ 0x3D :: quote a.2 ++ [0x0A])
  if args = [] then
    let s ← get
    for name in inOrder (s.aliases.map (·.1)) do
      show_ (name, (s.aliases.lookup name).getD [])
    return 0
  let mut status := 0
  for word in args do
    let name := word.take 1 ++ (word.drop 1).takeWhile (· ≠ 0x3D)
    if name.length < word.length then
      let text := word.drop (name.length + 1)
      modify fun s =>
        { s with aliases := (name, text) :: s.aliases.filter (·.1 ≠ name) }
    else
      match (← get).aliases.lookup word with
      | some text => show_ (word, text)
      | none =>
        emit 2 (utf8 "alias: " ++ word ++ utf8 " not found\n")
        status := 1
  return status

/-- Forgets abbreviations. -/
def unalias (args : List Bytes) : Act Nat := do
  let (letters, words) ← options "a" args
  if letters ≠ [] then
    modify fun s => { s with aliases := [] }
    return 0
  let mut status := 0
  for name in words do
    let s ← get
    if (s.aliases.lookup name).isSome then
      set { s with aliases := s.aliases.filter (·.1 ≠ name) }
    else
      emit 2 (utf8 "unalias: " ++ name ++ utf8 " not found\n")
      status := 1
  return status

/-! ### Reading -/

/-- A byte that was read, and whether a backslash stood in front of it. -/
abbrev Taken := UInt8 × Bool

/-- Reads the bytes of a line; the answer is whether the line had an end as well. -/
def takeLine (raw : Bool) : Nat → List Taken → Act (List Taken × Bool)
  | 0, done => return (done.reverse, false)
  | fuel + 1, done => do
    let next : Act (Option UInt8) := do
      match ← call (.read 0 1) with
      | .ok (b :: _) => return some b
      | _ => return none
    match ← next with
    | none => return (done.reverse, false)
    | some b =>
      if b = 0 then takeLine raw fuel done
      else if b = 0x0A then return (done.reverse, true)
      else if b = 0x5C ∧ !raw then
        match ← next with
        | none => return (done.reverse, false)
        | some c =>
          if c = 0x0A then takeLine raw fuel done else takeLine raw fuel ((c, true) :: done)
      else takeLine raw fuel ((b, false) :: done)

/-- Whether what was read is a separator. -/
def separates (separators : Bytes) (t : Taken) : Bool :=
  !t.2 && separators.contains t.1

/-- Whether what was read is a separator that is a blank. -/
def separatesBlank (separators : Bytes) (t : Taken) : Bool :=
  separates separators t && (t.1 = 0x20 || t.1 = 0x09 || t.1 = 0x0A)

/-- What is left after the separators behind a field: blanks, another separator, and blanks. -/
def afterField (separators : Bytes) (rest : List Taken) : List Taken :=
  let rest := rest.dropWhile (separatesBlank separators)
  match rest with
  | t :: more =>
    if separates separators t then more.dropWhile (separatesBlank separators) else rest
  | [] => []

/-- The fields of a line for so many variables; the last gets all that is left, without blanks at
its end, and without a single separator there if nothing else follows. -/
def lineFields (separators : Bytes) : Nat → List Taken → List Bytes
  | 0, _ => []
  | 1, line =>
    let trim := fun (l : List Taken) =>
      (l.reverse.dropWhile (separatesBlank separators)).reverse
    let field := line.takeWhile fun t => !separates separators t
    let rest := afterField separators (line.drop field.length)
    let kept := if rest = [] then field else trim line
    [kept.map (·.1)]
  | n + 2, line =>
    let field := line.takeWhile fun t => !separates separators t
    field.map (·.1) ::
      lineFields separators (n + 1) (afterField separators (line.drop field.length))

/-- Reads a line into variables. -/
def readInto (args : List Bytes) : Act Nat := do
  let (letters, names) ← options "p:r" args
  if names = [] then fail (utf8 "arg count")
  let raw := letters.any fun l => l.1 = 0x72
  let (line, ended) ← takeLine raw rounds []
  let separators := (← get).separators
  let line := line.dropWhile (separatesBlank separators)
  let fields := lineFields separators names.length line
  for (name, value) in names.zip fields do
    checkName name
    setVariable name value false
  return if ended then 0 else 1

/-! ### Options of scripts -/

/-- What was found of the next option of words. -/
structure Opted where
  /-- The letter that the variable gets. -/
  letter : UInt8
  /-- The value of the option, or none if that is to be taken away. Nothing changes at the end. -/
  value : Option (Option Bytes)
  /-- What is wrong. -/
  complaint : Option Bytes
  /-- The number of the word whose options come next. -/
  index : Nat
  /-- Where in the word before it there may be more of them. -/
  offset : Option Nat
  /-- Whether there are no more options. -/
  ended : Bool

/-- The next option of words. -/
def nextOption (spec : Bytes) (words : List Bytes) (index : Nat) (offset : Option Nat) : Opted :=
  let before := if index ≤ 1 then [] else (words[index - 2]?).getD []
  let left := match offset with
    | some n => if index ≤ 1 ∨ before.length < n then [] else before.drop n
    | none => []
  let finish := fun (index : Nat) => (⟨0x3F, none, none, index, none, true⟩ : Opted)
  match left with
  | b :: rest => option b rest index
  | [] =>
    match words[index - 1]? with
    | some [0x2D, 0x2D] => finish (index + 1)
    | some (0x2D :: b :: rest) => option b rest (index + 1)
    | _ => finish index
where
  /-- The option of a letter, with the rest of its word and the number of the word that follows. -/
  option (b : UInt8) (rest : Bytes) (index : Nat) : Opted :=
    let silent := spec.head? = some 0x3A
    let offset := ((words[index - 2]?).getD []).length - rest.length
    let letters := spec.filter (· ≠ 0x3A)
    if !letters.contains b then
      if silent then ⟨0x3F, some (some [b]), none, index, some offset, false⟩
      else
        ⟨0x3F, some none, some (utf8 "Illegal option -" ++ [b] ++ [0x0A]), index, some offset,
          false⟩
    else if spec[spec.idxOf b + 1]? = some 0x3A then
      match rest, words[index - 1]? with
      | [], none =>
        if silent then ⟨0x3A, some (some [b]), none, index, none, false⟩
        else
          ⟨0x3F, some none, some (utf8 "No arg for -" ++ [b] ++ utf8 " option\n"), index, none,
            false⟩
      | [], some value => ⟨b, some (some value), none, index + 1, none, false⟩
      | _, _ => ⟨b, some (some rest), none, index, none, false⟩
    else ⟨b, some (some []), none, index, some offset, false⟩

/-- Reads the next option of words into a variable. It is the first if the words end before the one
whose turn it is. -/
def getopts (args : List Bytes) : Act Nat := do
  match args with
  | spec :: name :: given =>
    let s ← get
    let words := if given = [] then s.parameters else given
    let (index, offset) :=
      if s.optionPlace.1 ≤ words.length + 1 then s.optionPlace else (1, none)
    let o := nextOption spec words index offset
    match o.complaint with
    | some c => emit 2 c
    | none => pure ()
    match o.value with
    | some (some v) => setVariable (utf8 "OPTARG") v false
    | some none => unsetVariable (utf8 "OPTARG")
    | none => pure ()
    setVariable (utf8 "OPTIND") (utf8 (toString o.index)) false
    checkName name
    setVariable name [o.letter] false
    modify fun s => { s with optionPlace := (o.index, o.offset) }
    return if o.ended then 1 else 0
  | _ => fail (utf8 "Usage: getopts optstring var [arg...]")

end Act

end CommandShell.Script
