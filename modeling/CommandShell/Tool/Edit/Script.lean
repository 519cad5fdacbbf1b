import CommandShell.Text.RegexSyntax

/-!
# Scripts of an editor for streams

A script is a list of commands, each for the lines that a selector describes. It is read from texts,
one after the other; a text to be added may begin in one of them and end in the next. What is wrong
with a script is told with the number of bytes that were read up to there.
-/

namespace CommandShell.Tool.Edit

open Text

/-- A regular expression of a script. -/
structure Expression where
  /-- The expression. -/
  regex : Regex
  /-- Upper and lower case are the same. -/
  folds : Bool
  /-- Newlines separate lines. -/
  lines : Bool

/-- Where a range of lines begins, or which lines are meant. -/
inductive Address where
  /-- The line of a number. -/
  | line (n : Nat)
  /-- The last line. -/
  | last
  /-- Every so manieth line from one on. -/
  | every (first step : Nat)
  /-- Lines that match an expression, or the last one that was used. -/
  | matching (e : Option Expression)
  /-- So many lines later; only the end of a range is given so. -/
  | later (n : Nat)
  /-- The next line whose number is a multiple; only the end of a range is given so. -/
  | multiple (n : Nat)

/-- For which lines a command is. -/
inductive Selector where
  /-- For all lines. -/
  | every
  /-- For the lines of an address. -/
  | one (a : Address)
  /-- For the lines from one address to another. Ranges are numbered. -/
  | range (number : Nat) (start finish : Address)

/-- A change of case in a replacement. -/
inductive Case where
  | upper | lower | upperNext | lowerNext | plain
deriving DecidableEq

/-- A piece of a replacement. -/
inductive Piece where
  /-- A text. -/
  | text (bytes : Bytes)
  /-- What a part of the expression has matched, or all of it. -/
  | part (n : Nat)
  /-- A change of case from here on. -/
  | case_ (c : Case)

/-- A replacement of what matches an expression. -/
structure Substitution where
  /-- The expression, or the last one that was used. -/
  expression : Option Expression
  /-- What it is replaced by. -/
  pieces : List Piece
  /-- All matches are replaced. -/
  all : Bool
  /-- The number of the first match that is replaced. -/
  first : Nat
  /-- The result is run as a command, and replaced by what that writes. -/
  runs : Bool
  /-- The result is written, and whether that is done before it is run. -/
  prints : Option Bool
  /-- The file that it is written to. -/
  file : Option Bytes

/-- When a jump is made. -/
inductive Jump where
  | always | ifReplaced | unlessReplaced
deriving DecidableEq

/-- What a command does. -/
inductive Action where
  /-- Jumps over the commands in braces if the line is not selected. -/
  | block (finish : Nat)
  /-- Nothing. -/
  | nothing
  /-- Adds a text after the line. -/
  | append (text : Bytes)
  /-- Writes a text before the line. -/
  | insert (text : Bytes)
  /-- Writes a text in place of lines. -/
  | change (text : Bytes)
  /-- Goes on at a label, or at the end. -/
  | jump (when_ : Jump) (label : Bytes)
  /-- Ends the cycle without writing. -/
  | delete
  /-- Deletes a first line and begins again with what is left. -/
  | deleteFirst
  /-- Writes the text. -/
  | print
  /-- Writes its first line. -/
  | printFirst
  /-- Goes to the next line. -/
  | next
  /-- Adds the next line to the text. -/
  | addNext
  /-- Copies the text to the store. -/
  | hold
  /-- Adds the text to the store. -/
  | addHold
  /-- Copies the store to the text. -/
  | fetch
  /-- Adds the store to the text. -/
  | addFetch
  /-- Exchanges the text and the store. -/
  | exchange
  /-- Writes the number of the line. -/
  | number
  /-- Writes the name of the file. -/
  | fileName
  /-- Writes the text so that every byte can be seen. -/
  | list (width : Option Nat)
  /-- Ends with a status, after the text was written if it is to be. -/
  | quit (silent : Bool) (status : Nat)
  /-- Adds the content of a file after the line. -/
  | readFile (name : Bytes)
  /-- Adds the next line of a file after the line. -/
  | readLine (name : Bytes)
  /-- Writes the text, or its first line, to a file. -/
  | write (first : Bool) (name : Bytes)
  /-- Replaces what matches an expression. -/
  | substitute (s : Substitution)
  /-- Replaces bytes by others. -/
  | translate (table : List (UInt8 × UInt8))
  /-- Empties the text. -/
  | clear
  /-- Runs a command; or the text, which what it writes then takes the place of. -/
  | run (command : Option Bytes)

/-- A command. -/
structure Command where
  /-- For which lines it is. -/
  selector : Selector
  /-- It is for all others. -/
  negated : Bool
  /-- What it does. -/
  action : Action

/-- What is wrong with a script. -/
inductive Mistake where
  /-- Something at a place. -/
  | here (text : Bytes)
  /-- Something that is told without a place. -/
  | somewhere (text : Bytes)
  /-- Braces that are not closed. -/
  | openBrace

/-- How far a script has been read. -/
structure Reader where
  /-- What follows. -/
  rest : Bytes
  /-- The number of bytes before that. -/
  count : Nat
  /-- Extended expressions are meant. -/
  extended : Bool
  /-- Only what every such editor knows is understood. -/
  common : Bool
  /-- Files cannot be read and written, nor commands run. -/
  confined : Bool
  /-- The commands, last first. -/
  done : List Command
  /-- The numbers of the commands whose braces are open. -/
  blocks : List Nat
  /-- The number of ranges. -/
  ranges : Nat
  /-- The labels with the numbers of the commands that follow. -/
  labels : List (Bytes × Nat)
  /-- The last command waits for a text. -/
  waiting : Bool
  /-- Lines are not written unless that is asked for. -/
  quiet : Bool

/-- Reading a script. A mistake is told with what was read. -/
abbrev Reading (α : Type) : Type :=
  StateT Reader (Except (Mistake × Reader)) α

namespace Reading

/-- There is a mistake here. -/
def fail {α : Type} (text : String) : Reading α := do
  throw (.here (utf8 text), ← get)

/-- The next byte; it is passed. -/
def next? : Reading (Option UInt8) := do
  let r ← get
  match r.rest with
  | [] => return none
  | b :: rest =>
    set { r with rest := rest, count := r.count + 1 }
    return some b

/-- The next byte; it is not passed. -/
def peek? : Reading (Option UInt8) :=
  return (← get).rest.head?

/-- Passes a number of bytes. -/
def skip (n : Nat) : Reading Unit :=
  modify fun r => { r with rest := r.rest.drop n, count := r.count + min n r.rest.length }

/-- Passes bytes of a kind; they are the answer. -/
def takeWhile (p : UInt8 → Bool) : Reading Bytes := do
  let taken := (← get).rest.takeWhile p
  skip taken.length
  return taken

/-- Whether a byte is a blank. -/
def isBlank (b : UInt8) : Bool :=
  b = 0x20 || b = 0x09

/-- Whether a byte is white space. -/
def isSpace (b : UInt8) : Bool :=
  b = 0x20 || (0x09 ≤ b && b ≤ 0x0D)

/-- Whether a byte is a digit. -/
def isDigit (b : UInt8) : Bool :=
  0x30 ≤ b && b ≤ 0x39

/-- Passes blanks. -/
def skipBlanks : Reading Unit := do
  let _ ← takeWhile isBlank

/-- A number that may be missing. -/
def number? : Reading (Option Nat) := do
  let digits ← takeWhile isDigit
  if digits = [] then return none
  else return some (digits.foldl (fun n b => n * 10 + (b.toNat - 0x30)) 0)

/-! ### Texts between marks -/

/-- The number of bytes of the bracket that begins a text. -/
def bracketLength (text : Bytes) : Option Nat :=
  let negation := if (text.drop 1).head? = some 0x5E then 2 else 1
  let first := if (text.drop negation).head? = some 0x5D then negation + 1 else negation
  go (text.length + 1) (text.drop first) first
where
  /-- Goes to the end of the bracket. -/
  go : Nat → Bytes → Nat → Option Nat
    | 0, _, _ => none
    | fuel + 1, rest, n =>
      match rest with
      | [] => none
      | 0x0A :: _ => none
      | 0x5D :: _ => some (n + 1)
      | 0x5B :: m :: more =>
        if m = 0x3A ∨ m = 0x2E ∨ m = 0x3D then
          match ending m more 0 with
          | some k => go fuel (more.drop k) (n + 2 + k)
          | none => go fuel (m :: more) (n + 1)
        else go fuel (m :: more) (n + 1)
      | _ :: more => go fuel more (n + 1)
  /-- The number of bytes up to the end of a class in a bracket. -/
  ending (m : UInt8) : Bytes → Nat → Option Nat
    | a :: 0x5D :: rest, n => if a = m then some (n + 2) else ending m (0x5D :: rest) (n + 1)
    | _ :: rest, n => ending m rest (n + 1)
    | [], _ => none

/-- A text up to a mark; nothing if that does not follow on the line. Marks with a backslash in
front belong to the text, and so do those in brackets of an expression. -/
def upTo (mark : UInt8) (expression : Bool) : Nat → Bytes → Reading (Option Bytes)
  | 0, _ => return none
  | fuel + 1, done => do
    let text := (← get).rest
    match text with
    | [] => return none
    | 0x0A :: _ => return none
    | b :: rest =>
      if b = mark then
        skip 1
        return some done.reverse
      else if b = 0x5C then
        match rest with
        | [] =>
          skip 1
          return none
        | c :: _ =>
          skip 2
          if c = 0x6E ∧ expression ∧ c ≠ mark then upTo mark expression fuel (0x0A :: done)
          else if c = 0x0A ∨ (c = mark ∧ (expression ∨ c ≠ 0x26)) then
            upTo mark expression fuel (c :: done)
          else upTo mark expression fuel (c :: 0x5C :: done)
      else if b = 0x5B ∧ expression then
        match bracketLength text with
        | none =>
          skip text.length
          return none
        | some n =>
          skip n
          let inside := if (← get).common then text.take n else brokenLines (text.take n)
          upTo mark expression fuel (inside.reverse ++ done)
      else
        skip 1
        upTo mark expression fuel (b :: done)
where
  /-- A bracket with the newlines that are written as escapes. -/
  brokenLines : Bytes → Bytes
    | 0x5C :: 0x6E :: rest => 0x0A :: brokenLines rest
    | b :: rest => b :: brokenLines rest
    | [] => []

/-- The number that digits of a base spell, and what follows. -/
def digitsOf (base most : Nat) (text : Bytes) : Option (UInt8 × Bytes) :=
  let value? := fun (b : UInt8) =>
    let n := if isDigit b then b.toNat - 0x30
      else if 0x61 ≤ b ∧ b ≤ 0x66 then b.toNat - 0x57
      else if 0x41 ≤ b ∧ b ≤ 0x46 then b.toNat - 0x37 else 99
    if n < base then some n else none
  let digits := (text.take most).takeWhile fun b => (value? b).isSome
  if digits = [] then none
  else
    some (UInt8.ofNat (digits.foldl (fun n b => n * base + (value? b).getD 0) 0 % 256),
      text.drop digits.length)

/-- The byte that an escape stands for, after its backslash, and what follows. -/
def escape? (text : Bytes) : Option (UInt8 × Bytes) :=
  match text with
  | 0x61 :: rest => some (0x07, rest)
  | 0x66 :: rest => some (0x0C, rest)
  | 0x6E :: rest => some (0x0A, rest)
  | 0x72 :: rest => some (0x0D, rest)
  | 0x74 :: rest => some (0x09, rest)
  | 0x76 :: rest => some (0x0B, rest)
  | 0x63 :: b :: rest => some ((if 0x61 ≤ b ∧ b ≤ 0x7A then b - 0x20 else b) ^^^ 0x40, rest)
  | 0x64 :: rest => digitsOf 10 3 rest
  | 0x6F :: rest => digitsOf 8 3 rest
  | 0x78 :: rest => digitsOf 16 2 rest
  | _ => none

/-- The text of an expression with its escapes replaced; those in brackets may stay. -/
def plainExpression (keepsBrackets : Bool) : Nat → Bytes → Bytes
  | 0, text => text
  | fuel + 1, text =>
    match text with
    | 0x5C :: rest =>
      match escape? rest with
      | some (b, rest) => b :: plainExpression keepsBrackets fuel rest
      | none =>
        match rest with
        | b :: rest => 0x5C :: b :: plainExpression keepsBrackets fuel rest
        | [] => [0x5C]
    | b :: rest =>
      let kept := if keepsBrackets ∧ b = 0x5B then (bracketLength text).getD 1 else 1
      b :: rest.take (kept - 1) ++ plainExpression keepsBrackets fuel (rest.drop (kept - 1))
    | [] => []

/-- The expression of a text, and the number of its parts; no text means the last one used. -/
def compile (text : Bytes) (folds lines : Bool) : Reading (Option Expression × Nat) := do
  if text = [] then return (none, 9)
  else
    let r ← get
    match Regex.parse ⟨r.extended, true, true, r.common⟩
        (plainExpression r.common (text.length + 1) text) with
    | .ok (e, n, _) => return (some ⟨if lines then e.withinLines else e, folds, lines⟩, n)
    | .error .bareClass => throw (.somewhere (utf8 Regex.Fault.bareClass.text), ← get)
    | .error f => fail f.text

/-! ### Addresses -/

/-- What follows an expression of an address. -/
def modifiers : Nat → Bool → Bool → Reading (Bool × Bool)
  | 0, folds, lines => return (folds, lines)
  | fuel + 1, folds, lines => do
    skipBlanks
    let next ← if (← get).common then pure none else peek?
    match next with
    | some 0x49 =>
      skip 1
      modifiers fuel true lines
    | some 0x4D =>
      skip 1
      modifiers fuel folds true
    | _ => return (folds, lines)

/-- An address, if there is one. -/
def address? : Reading (Option Address) := do
  match ← peek? with
  | none => return none
  | some b =>
    if b = 0x2F ∨ b = 0x5C then
      skip 1
      let mark ← if b = 0x5C then next? else pure (some b)
      match mark with
      | none => fail "unterminated address regex"
      | some mark =>
        match ← upTo mark true ((← get).rest.length + 1) [] with
        | none => fail "unterminated address regex"
        | some text =>
          let (folds, lines) ← modifiers ((← get).rest.length + 1) false false
          let (e, _) ← compile text folds lines
          return some (.matching e)
    else if isDigit b then
      let n := (← number?).getD 0
      skipBlanks
      if (← peek?) = some 0x7E ∧ !(← get).common then
        skip 1
        skipBlanks
        let step := (← number?).getD 0
        return some (if step = 0 then .line n else .every n step)
      else return some (.line n)
    else if (b = 0x2B ∨ b = 0x7E) ∧ !(← get).common then
      skip 1
      skipBlanks
      let n := (← number?).getD 0
      return some (if b = 0x2B then .later n else .multiple n)
    else if b = 0x24 then
      skip 1
      return some .last
    else return none

/-- Whether a range begins before the first line although it must not. -/
def beginsEarly (common : Bool) (start : Address) (finish : Option Address) : Bool :=
  match start, finish with
  | .line 0, some (.matching _) => common
  | .line 0, _ => true
  | _, _ => false

/-- For which lines a command is. -/
def selector : Reading Selector := do
  match ← address? with
  | none => return .every
  | some start =>
    match start with
    | .later _ => fail "invalid usage of +N or ~N as first address"
    | .multiple _ => fail "invalid usage of +N or ~N as first address"
    | _ => pure ()
    skipBlanks
    let finish ←
      if (← peek?) = some 0x2C then do
        skip 1
        skipBlanks
        match ← address? with
        | none =>
          skip 1
          fail "unexpected `,'"
        | some a =>
          skipBlanks
          pure (some a)
      else pure none
    if beginsEarly (← get).common start finish then
      skip 1
      fail "invalid usage of line address 0"
    match finish with
    | none => return .one start
    | some a =>
      let r ← get
      set { r with ranges := r.ranges + 1 }
      return .range r.ranges start a

/-! ### Commands -/

/-- Passes the end of a command. -/
def finish : Reading Unit := do
  skipBlanks
  match ← peek? with
  | none => return ()
  | some b =>
    if b = 0x7D ∨ b = 0x23 then return ()
    else
      skip 1
      if b ≠ 0x0A ∧ b ≠ 0x3B then fail "extra characters after command"

/-- A number that may follow a command. -/
def parameter? : Reading (Option Nat) := do
  skipBlanks
  if (← get).common then return none else number?

/-- A label. -/
def label : Reading Bytes := do
  skipBlanks
  takeWhile fun b => !isSpace b && b ≠ 0x3B && b ≠ 0x7D

/-- The name of a file. -/
def fileName : Reading Bytes := do
  skipBlanks
  let name ← takeWhile (· ≠ 0x0A)
  if name = [] then fail "missing filename in r/R/w/W commands"
  skip 1
  return name

/-- The name of a file that is read or written, if that may be done. -/
def writtenFile : Reading Bytes := do
  if (← get).confined then fail "e/r/w commands disabled in sandbox mode"
  fileName

/-- The lines of a text, and whether it is complete; the last line of a part that ends with a
backslash goes on in the next. -/
def textLines : Nat → Bytes → Reading Bytes
  | 0, done => return done.reverse
  | fuel + 1, done => do
    match ← next? with
    | none => return (0x0A :: done).reverse
    | some 0x0A => return (0x0A :: done).reverse
    | some 0x5C =>
      match escape? (← get).rest with
      | some (b, rest) =>
        let r ← get
        set { r with rest := rest, count := r.count + (r.rest.length - rest.length) }
        textLines fuel (b :: done)
      | none =>
        match ← next? with
        | none => return (0x0A :: done).reverse
        | some b => textLines fuel (b :: done)
    | some b => textLines fuel (b :: done)

/-- A text that a command adds; nothing if it is to come from what is read next. -/
def text? : Reading (Option Bytes) := do
  skipBlanks
  match ← peek? with
  | none => fail "expected \\ after `a', `c' or `i'"
  | some 0x5C =>
    skip 1
    let rest := (← get).rest
    let blanks := rest.takeWhile isBlank
    match rest.drop blanks.length with
    | [] => if blanks = [] then return none else return some (← textLines (rest.length + 1) [])
    | 0x0A :: more =>
      skip (blanks.length + 1)
      if more = [] then return none else return some (← textLines (rest.length + 1) [])
    | _ =>
      match rest with
      | 0x5C :: _ => return some (← textLines (rest.length + 1) [])
      | b :: _ =>
        skip 1
        return some (← textLines (rest.length + 1) [b])
      | [] => return none
  | some _ =>
    let r ← get
    if r.common then
      skip 1
      fail "expected \\ after `a', `c' or `i'"
    return some (← textLines (r.rest.length + 1) [])

/-- The pieces of a replacement. -/
def pieces (common : Bool) : Nat → Bytes → Bytes → List Piece → List Piece
  | 0, _, _, done => done.reverse
  | fuel + 1, text, run, done =>
    let ended := if run = [] then done else .text run.reverse :: done
    let add := fun (rest : Bytes) (p : Piece) => pieces common fuel rest [] (p :: ended)
    let change := fun (b : UInt8) (rest : Bytes) (c : Case) =>
      if common then pieces common fuel rest (b :: run) done else add rest (.case_ c)
    match text with
    | [] => ended.reverse
    | 0x26 :: rest => add rest (.part 0)
    | 0x5C :: b :: rest =>
      match b with
      | 0x55 => change b rest .upper
      | 0x4C => change b rest .lower
      | 0x75 => change b rest .upperNext
      | 0x6C => change b rest .lowerNext
      | 0x45 => change b rest .plain
      | _ =>
        if isDigit b then add rest (.part (b.toNat - 0x30))
        else
          match escape? (b :: rest) with
          | some (c, rest) => pieces common fuel rest (c :: run) done
          | none => pieces common fuel rest (b :: run) done
    | b :: rest => pieces common fuel rest (b :: run) done

/-- The options of a replacement. -/
structure SubstitutionOptions where
  /-- All matches are replaced. -/
  all : Bool := false
  /-- The number of the first match that is replaced. -/
  first : Option Nat := none
  /-- The result is run. -/
  runs : Bool := false
  /-- The result is written, and whether that is done before it is run. -/
  prints : Option Bool := none
  /-- Upper and lower case are the same. -/
  folds : Bool := false
  /-- Newlines separate lines. -/
  lines : Bool := false
  /-- The file that the result is written to. -/
  file : Option Bytes := none

/-- Reads the options of a replacement. -/
def options : Nat → SubstitutionOptions → Reading SubstitutionOptions
  | 0, o => return o
  | fuel + 1, o => do
    match ← next? with
    | none => return o
    | some b =>
      if (← get).common ∧ (utf8 "iImMe").contains b then fail "unknown option to `s'"
      match b with
      | 0x65 =>
        if (← get).confined then fail "e/r/w commands disabled in sandbox mode"
        options fuel { o with runs := true }
      | 0x69 => options fuel { o with folds := true }
      | 0x49 => options fuel { o with folds := true }
      | 0x6D => options fuel { o with lines := true }
      | 0x4D => options fuel { o with lines := true }
      | 0x70 =>
        if o.prints.isSome then fail "multiple `p' options to `s' command"
        options fuel { o with prints := some !o.runs }
      | 0x67 =>
        if o.all then fail "multiple `g' options to `s' command"
        options fuel { o with all := true }
      | 0x77 => return { o with file := some (← writtenFile) }
      | 0x7D =>
        modify fun r => { r with rest := 0x7D :: r.rest, count := r.count - 1 }
        return o
      | 0x23 =>
        modify fun r => { r with rest := 0x23 :: r.rest, count := r.count - 1 }
        return o
      | 0x0A => return o
      | 0x3B => return o
      | _ =>
        if isBlank b then options fuel o
        else if isDigit b then
          if o.first.isSome then fail "multiple number options to `s' command"
          let more := (← number?)
          let digits := (toString (more.getD 0)).length
          let n := match more with
            | none => b.toNat - 0x30
            | some m => (b.toNat - 0x30) * Nat.pow 10 digits + m
          if n = 0 then fail "number option to `s' command may not be zero"
          options fuel { o with first := some n }
        else fail "unknown option to `s'"

/-- Reads a replacement. -/
def substitution : Reading Action := do
  let unended := "unterminated `s' command"
  match ← next? with
  | none => fail unended
  | some mark =>
    let size := (← get).rest.length + 1
    match ← upTo mark true size [] with
    | none => fail unended
    | some expression =>
      match ← upTo mark false size [] with
      | none => fail unended
      | some replacement =>
        let o ← options size {}
        let (e, count) ← compile expression o.folds o.lines
        let parts := pieces (← get).common (replacement.length + 1) replacement [] []
        let greatest := parts.foldl (fun n p => match p with
          | .part k => max n k
          | _ => n) 0
        if count < greatest then
          fail ("invalid reference \\" ++ toString greatest ++ " on `s' command's RHS")
        return .substitute ⟨e, parts, o.all, o.first.getD 1, o.runs, o.prints, o.file⟩

/-- The bytes of a list of replacements of bytes. -/
def letters : Nat → Bytes → Bytes
  | 0, _ => []
  | fuel + 1, text =>
    match text with
    | [] => []
    | 0x5C :: rest =>
      match escape? rest with
      | some (b, rest) => b :: letters fuel rest
      | none =>
        match rest with
        | b :: rest => b :: letters fuel rest
        | [] => [0x5C]
    | b :: rest => b :: letters fuel rest

/-- Reads a replacement of bytes by others. -/
def translation : Reading Action := do
  let unended := "unterminated `y' command"
  match ← next? with
  | none => fail unended
  | some mark =>
    let size := (← get).rest.length + 1
    match ← upTo mark false size [] with
    | none => fail unended
    | some old =>
      match ← upTo mark false size [] with
      | none => fail unended
      | some new =>
        let old := letters (old.length + 1) old
        let new := letters (new.length + 1) new
        if old.length ≠ new.length then
          fail "strings for `y' command are different lengths"
        finish
        return .translate (old.zip new)

/-- A command that is a letter alone. -/
def simple? (b : UInt8) : Option Action :=
  match b with
  | 0x3D => some .number
  | 0x64 => some .delete
  | 0x44 => some .deleteFirst
  | 0x46 => some .fileName
  | 0x67 => some .fetch
  | 0x47 => some .addFetch
  | 0x68 => some .hold
  | 0x48 => some .addHold
  | 0x6E => some .next
  | 0x4E => some .addNext
  | 0x70 => some .print
  | 0x50 => some .printFirst
  | 0x78 => some .exchange
  | 0x7A => some .clear
  | _ => none

/-- Adds a command. -/
def add (s : Selector) (negated : Bool) (a : Action) : Reading Unit :=
  modify fun r => { r with done := ⟨s, negated, a⟩ :: r.done }

/-- Sets the text of the last command. -/
def setText (text : Bytes) : Reading Unit :=
  modify fun r => { r with
    waiting := false
    done := match r.done with
      | c :: rest =>
        let action := match c.action with
          | .append _ => .append text
          | .insert _ => .insert text
          | .change _ => .change text
          | a => a
        { c with action := action } :: rest
      | [] => [] }

/-- Closes braces. -/
def closeBrace (s : Selector) : Reading Unit := do
  let r ← get
  match r.blocks with
  | [] => fail "unexpected `\x7d'"
  | block :: blocks =>
    match s with
    | .every => pure ()
    | _ => fail "`\x7d' doesn't want any addresses"
    finish
    let r ← get
    let commands := r.done.reverse.zipIdx.map fun (c, i) =>
      if i = block then { c with action := .block r.done.length } else c
    set { r with done := commands.reverse, blocks := blocks }

/-- Reads a command after its selector. -/
def action (s : Selector) (negated : Bool) (b : UInt8) (start : Nat) : Reading Unit := do
  let isEvery : Bool := match s with
    | .every => true
    | _ => false
  let unknown : Reading Unit := do
    throw (.here (utf8 "unknown command: `" ++ [b] ++ utf8 "'"), ← get)
  if (← get).common ∧ (utf8 "FzeRWQv").contains b then unknown
  match simple? b with
  | some a =>
    finish
    add s negated a
  | none =>
    match b with
    | 0x23 =>
      if !isEvery then fail "comments don't accept any addresses"
      let comment ← takeWhile (· ≠ 0x0A)
      if start = 0 ∧ comment = [0x6E] then modify fun r => { r with quiet := true }
    | 0x7B =>
      modify fun r => { r with blocks := r.done.length :: r.blocks }
      add s negated (.block 0)
    | 0x7D => closeBrace s
    | 0x3A =>
      if !isEvery then fail ": doesn't want any addresses"
      let name ← label
      if name = [] then fail "\":\" lacks a label"
      modify fun r => { r with labels := r.labels ++ [(name, r.done.length)] }
    | 0x73 => add s negated (← substitution)
    | 0x79 => add s negated (← translation)
    | 0x62 => jump .always
    | 0x74 => jump .ifReplaced
    | 0x54 => jump .unlessReplaced
    | 0x61 => adding .append
    | 0x69 => adding .insert
    | 0x63 => adding .change
    | 0x71 => quitting false
    | 0x51 => quitting true
    | 0x6C =>
      let width ← parameter?
      finish
      add s negated (.list width)
    | 0x72 => add s negated (.readFile (← writtenFile))
    | 0x52 => add s negated (.readLine (← writtenFile))
    | 0x77 => add s negated (.write false (← writtenFile))
    | 0x57 => add s negated (.write true (← writtenFile))
    | 0x65 =>
      if (← get).confined then fail "e/r/w commands disabled in sandbox mode"
      skipBlanks
      match ← peek? with
      | none => add s negated (.run none)
      | some 0x0A => add s negated (.run none)
      | some _ =>
        match ← text? with
        | some text => add s negated (.run (some text.dropLast))
        | none => add s negated (.run none)
    | 0x76 =>
      let _ ← label
      finish
    | _ => unknown
where
  /-- Reads a jump. -/
  jump (j : Jump) : Reading Unit := do
    let name ← label
    finish
    add s negated (.jump j name)
  /-- Reads a text to be added. -/
  adding (f : Bytes → Action) : Reading Unit := do
    match ← text? with
    | some text => add s negated (f text)
    | none =>
      add s negated (f [])
      modify fun r => { r with waiting := true }
  /-- Reads the status with which the script ends. -/
  quitting (silent : Bool) : Reading Unit := do
    match s with
    | .range _ _ _ => fail "command only uses one address"
    | _ => pure ()
    let status ← parameter?
    finish
    add s negated (.quit silent (status.getD 0))

/-- Reads commands. -/
def commands (first : Bool) : Nat → Reading Unit
  | 0 => return ()
  | fuel + 1 => do
    let _ ← takeWhile fun b => isSpace b || b = 0x3B
    let count := (← get).count
    let start := if first then count else 1
    if (← get).rest = [] then return ()
    let s ← selector
    skipBlanks
    let negated ←
      if (← peek?) = some 0x21 then do
        skip 1
        skipBlanks
        if (← peek?) = some 0x21 then
          skip 1
          fail "multiple `!'s"
        pure true
      else pure false
    match ← next? with
    | none => fail "missing command"
    | some b => action s negated b start
    commands first fuel

/-- Reads a part of a script. -/
def part (first : Bool) (text : Bytes) : Reading Unit := do
  modify fun r => { r with rest := text, count := 0 }
  if (← get).waiting then setText (← textLines (text.length + 1) [])
  commands first (text.length + 1)

end Reading

end CommandShell.Tool.Edit
