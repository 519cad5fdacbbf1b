import CommandShell.Tool.Edit.Script
import CommandShell.Tool.Runner

/-!
# Editing streams

Line after line of the input is taken, changed as a script says, and written. A second text is kept
from line to line. The last line may lack its end; what is written after it then begins with that
end.
-/

namespace CommandShell.Tool.Edit

open Work Text

/-- A text with whether its line has an end. -/
structure Space where
  /-- The text. -/
  text : Bytes
  /-- The line has an end. -/
  ended : Bool

/-- Where something is written to. -/
inductive Outlet where
  /-- The output of the tool, or the new content of a file. -/
  | output
  /-- An open file of a number. -/
  | file (fd : Nat)
deriving DecidableEq

/-- What is written when the line is done. -/
inductive Later where
  /-- A text. -/
  | text (bytes : Bytes)
  /-- The content of a file. -/
  | file (name : Bytes)
deriving DecidableEq

/-- How a stream is edited. -/
structure Manner where
  /-- The commands. -/
  commands : Array Command
  /-- The labels with the commands that follow. -/
  labels : List (Bytes × Nat)
  /-- Lines are not written unless that is asked for. -/
  quiet : Bool
  /-- Each file is a stream of its own. -/
  separate : Bool
  /-- Files are replaced by what becomes of them, and kept under names with such an ending. -/
  inPlace : Option Bytes
  /-- What ends lines. -/
  ending : UInt8
  /-- The width of lines in which every byte can be seen. -/
  width : Nat
  /-- What no line can be added to is dropped. -/
  common : Bool

/-- How far a stream has been edited. -/
structure State where
  /-- The text. -/
  space : Space
  /-- The text that is kept. -/
  hold : Space
  /-- The number of the line. -/
  line : Nat
  /-- The file that is read. -/
  source : Option Source
  /-- Its name. -/
  name : Bytes
  /-- The files that follow. -/
  waiting : List Bytes
  /-- The expression that was used last. -/
  last : Option Expression
  /-- Something was replaced since the line was read. -/
  replaced : Bool
  /-- What is written when the line is done, last first. -/
  later : List Later
  /-- For each range that has begun, the number of its last line if that is known. -/
  ranges : List (Nat × Option Nat)
  /-- The files that are written to, or read line by line. -/
  files : List (Bytes × Outlet)
  /-- Files that are read line by line. -/
  readers : List (Bytes × Source)
  /-- Outlets whose last line has no end. -/
  unended : List Outlet
  /-- The new content of the file that is read, in portions, last first. -/
  content : List Bytes
  /-- The end has come with a status. -/
  status : Nat

/-- Says why output was not taken, and ends without what is left of it. -/
def abandon {α : Type} (what : Bytes) : Work α := do
  emit ((← get).name ++ utf8 ": " ++ what ++ [0x0A])
  modify fun d => { d with pending := [], size := 0, refused := false }
  exit 4

/-- Editing a stream. -/
abbrev Editing (α : Type) : Type :=
  StateT State (ExceptT Unit (StateT Desk Program)) α

namespace Editing

/-- Work of the tool. -/
def work {α : Type} (w : Work α) : Editing α :=
  StateT.lift w

/-- Something is wrong that ends the work. -/
def panic {α : Type} (text : Bytes) : Editing α :=
  work (Work.fail 4 text)

/-! ### Output -/

/-- Writes bytes to an outlet. -/
def send (m : Manner) (o : Outlet) (bytes : Bytes) : Editing Unit := do
  match o with
  | .output =>
    if m.inPlace.isSome then modify fun s => { s with content := bytes :: s.content }
    else
      match ← work (putChecked bytes) with
      | none => return ()
      | some e =>
        let count := toString bytes.length
        work (abandon (utf8 ("couldn't write " ++ count ++ " items to stdout: " ++ e.libraryText)))
  | .file fd =>
    if fd = 1 then work (put bytes)
    else
      let _ ← work (call (.write fd bytes))

/-- Writes the end that the last line of an outlet lacks. -/
def mend (m : Manner) (o : Outlet) : Editing Unit := do
  if (← get).unended.contains o then
    send m o [m.ending]
    modify fun s => { s with unended := s.unended.filter (· ≠ o) }

/-- Writes bytes on lines of their own. -/
def write (m : Manner) (o : Outlet) (bytes : Bytes) : Editing Unit := do
  mend m o
  send m o bytes

/-- Writes lines on lines of their own, the last of which ends as lines of the stream do. -/
def writeLines (m : Manner) (o : Outlet) (bytes : Bytes) : Editing Unit :=
  write m o (if bytes = [] then [] else bytes.dropLast ++ [m.ending])

/-- Writes a text as a line. -/
def writeSpace (m : Manner) (o : Outlet) (text : Bytes) (ended : Bool) : Editing Unit := do
  mend m o
  if ended then send m o (text ++ [m.ending])
  else
    send m o text
    modify fun s => { s with unended := o :: s.unended }

/-- Writes what was to be written when the line is done. -/
def writeLater (m : Manner) : Editing Unit := do
  let all := (← get).later.reverse
  modify fun s => { s with later := [] }
  if all ≠ [] then mend m .output
  for l in all do
    match l with
    | .text bytes => send m .output bytes
    | .file name =>
      match ← work (contentOf (if name = utf8 "/dev/stdin" then utf8 "-" else name)) with
      | .ok bytes => send m .output bytes
      | .error _ => pure ()

/-! ### Input -/

/-- Puts the new content of a file in its place. -/
def replaceFile (m : Manner) : Editing Unit := do
  match m.inPlace with
  | none => return ()
  | some keep =>
    let s ← get
    let mode ← match ← work (call (.facts s.name true)) with
      | .ok f => pure f.mode
      | .error _ => pure 0o644
    if keep = [] then
      let _ ← work (call (.change (.unlink s.name)))
    else
      let base := lastName s.name
      let front := s.name.take (s.name.length - base.length)
      let kept := if keep.contains 0x2A then
          keep.flatMap fun b => if b = 0x2A then base else [b]
        else base ++ keep
      let path := if kept.contains slash then kept else front ++ kept
      let _ ← work (call (.change (.rename s.name path)))
    match ← work (call (.openFile s.name .writing)) with
    | .ok fd =>
      let _ ← work (call (.write fd s.content.reverse.flatten))
      let _ ← work (call (.close fd))
      let _ ← work (call (.change (.setMode s.name mode)))
    | .error e => panic (utf8 "couldn't open file " ++ s.name ++ utf8 (": " ++ e.libraryText))
    set { s with content := [], unended := s.unended.filter (· ≠ Outlet.output) }

/-- Opens the next file that can be opened. The answer is whether there is one. -/
def openNext (m : Manner) : Nat → Editing Bool
  | 0 => return false
  | fuel + 1 => do
    let s ← get
    match s.waiting with
    | [] => return false
    | name :: rest =>
      set { s with waiting := rest }
      let direct := isInput name && m.inPlace.isNone
      let facts : Except Errno Facts ←
        if direct then pure (.error .noEntry) else work (call (.facts name true))
      let special : Bool := match facts with
        | .ok f => f.kind ≠ .file
        | .error _ => false
      if m.inPlace.isSome ∧ special then
        work (fail 4 (utf8 "couldn't edit " ++ name ++ utf8 ": not a regular file"))
      else
        let opened : Except Errno Nat ← work (openInput (if direct then [0x2D] else name))
        match opened with
        | .error e =>
          work (say (utf8 "can't read " ++ name ++ utf8 (": " ++ e.libraryText)))
          work (fault 2)
          openNext m fuel
        | .ok fd =>
          modify fun s => { s with
            source := some (.ofOpen fd), name := name, line := if m.separate then 0 else s.line }
          return true

/-- Whether a source has come to its end; it is read on to find out. -/
def isOver (name : Bytes) (s : Source) : Editing (Bool × Source) := do
  if s.left ≠ [] then return (false, s)
  else
    let s ← work s.more
    match s.failure with
    | some e => panic (utf8 "read error on " ++ name ++ utf8 (": " ++ e.libraryText))
    | none => return (s.left = [], s)

/-- Whether the line is the last one. Files that have no lines are passed. -/
def isLast (m : Manner) : Nat → Editing Bool
  | 0 => return true
  | fuel + 1 => do
    let s ← get
    match s.source with
    | none => return true
    | some source =>
      let (ended, source) ← isOver s.name source
      modify fun s => { s with source := some source }
      if !ended then return false
      else if m.separate then return true
      else
        match s.waiting with
        | [] => return true
        | _ =>
          work (closeInput s.name source.fd)
          if ← openNext m ((← get).waiting.length + 1) then isLast m fuel
          else
            modify fun s => { s with source := none }
            return true

/-- Reads the next line. The answer is whether there is one. -/
def readLine (m : Manner) : Nat → Editing (Option TextLine)
  | 0 => return none
  | fuel + 1 => do
    let s ← get
    match s.source with
    | none =>
      if ← openNext m (s.waiting.length + 1) then readLine m fuel else return none
    | some source =>
      let (ended, source) ← isOver s.name source
      if ended then
        work (closeInput s.name source.fd)
        modify fun s => { s with source := none }
        replaceFile m
        readLine m fuel
      else
        let (line, source) ← work (source.line m.ending)
        modify fun s => { s with source := some source, line := s.line + 1 }
        return line

/-- Goes to the next line, after what was to be written before that. The answer is whether there is
one. -/
def advance (m : Manner) (join : Bool) : Editing Bool := do
  writeLater m
  modify fun s => { s with replaced := if join then s.replaced else false }
  match ← readLine m (2 * (← get).waiting.length + 3) with
  | none => return false
  | some l =>
    modify fun s => { s with
      space := ⟨if join then s.space.text ++ m.ending :: l.bytes else l.bytes, l.ended⟩ }
    return true

/-! ### Selecting lines -/

/-- The expression that is meant. -/
def expression (e : Option Expression) : Editing Expression := do
  let last := (← get).last
  match e.orElse fun _ => last with
  | some e =>
    modify fun s => { s with last := some e }
    return e
  | none =>
    work do
      say (utf8 "-e expression #1, char 0: no previous regular expression")
      exit 1

/-- The text as what an expression is matched with. -/
def subject (e : Expression) (text : Bytes) : Regex.Subject :=
  ⟨text.toArray, e.folds, e.lines⟩

/-- Whether the line is at an address. -/
def isAt (m : Manner) (a : Address) : Editing Bool := do
  let s ← get
  match a with
  | .line n => return s.line = n
  | .last => isLast m (s.waiting.length + 2)
  | .every first step => return first ≤ s.line && (s.line - first) % step = 0
  | .matching e =>
    let e ← expression e
    return (Regex.find (subject e s.space.text) e.regex 0).isSome
  | .later _ => return false
  | .multiple _ => return false

/-- Whether the line is in a range that has begun; it may be the last one. -/
def continues (m : Manner) (number : Nat) (finish : Address) (known : Option Nat) :
    Editing Bool := do
  let close := modify fun (s : State) => { s with ranges := s.ranges.filter (·.1 ≠ number) }
  match known with
  | some n =>
    let line := (← get).line
    if n ≤ line then close
    return line ≤ n
  | none =>
    if ← isAt m finish then close
    return true

/-- Whether the line is the first one of a range. -/
def begins (m : Manner) (number : Nat) (start finish : Address) : Editing Bool := do
  if !(← isAt m start) then return false
  let line := (← get).line
  let set_ := fun (n : Option Nat) =>
    modify fun (s : State) => { s with ranges := (number, n) :: s.ranges }
  match finish with
  | .line n => if line < n then set_ (some n)
  | .later n => if 0 < n then set_ (some (line + n))
  | .multiple n => if n ≠ 0 then set_ (some ((line / n + 1) * n))
  | _ => set_ none
  return true

/-- Whether a command is for the line. -/
def isSelected (m : Manner) (c : Command) : Editing Bool := do
  let found ← match c.selector with
    | .every => pure true
    | .one a => isAt m a
    | .range number start finish =>
      match (← get).ranges.lookup number with
      | some known => continues m number finish known
      | none => begins m number start finish
  return found != c.negated

/-! ### Replacing -/

/-- How the case of a replacement changes. -/
structure Casing where
  /-- For all bytes. -/
  all : Case
  /-- For the next byte. -/
  next : Option Case

/-- Bytes with their case changed. -/
def Casing.apply (c : Casing) (bytes : Bytes) : Bytes :=
  let change := fun (k : Case) (b : UInt8) => match k with
    | .upper => Regex.upper b
    | .lower => Regex.lower b
    | _ => b
  match c.next, bytes with
  | some .upperNext, b :: rest => Regex.upper b :: rest.map (change c.all)
  | some .lowerNext, b :: rest => Regex.lower b :: rest.map (change c.all)
  | _, _ => bytes.map (change c.all)

/-- What a match is replaced by. -/
def replacement (text : Bytes) (start : Nat) (p : Regex.Place) : List Piece → Casing → Bytes
  | [], _ => []
  | .case_ k :: rest, c =>
    replacement text start p rest <| match k with
      | .upperNext => { c with next := some k }
      | .lowerNext => { c with next := some k }
      | _ => ⟨k, c.next⟩
  | piece :: rest, c =>
    let bytes := match piece with
      | .text b => b
      | .part 0 => (text.drop start).take (p.position - start)
      | .part n =>
        match p.parts.lookup n with
        | some (a, b) => (text.drop a).take (b - a)
        | none => []
      | .case_ _ => []
    c.apply bytes ++
      replacement text start p rest (if bytes = [] then c else { c with next := none })

/-- Replaces matches from a place on. The matches before that have been counted, and it is known
where the last one has ended. The answer is the rest of the text, and whether anything was
replaced. -/
def replaceFrom (e : Expression) (sub : Substitution) (text : Bytes) (s : Regex.Subject) :
    Nat → Nat → Nat → Option Nat → Bytes × Bool
  | 0, start, _, _ => (text.drop start, false)
  | fuel + 1, start, count, ended =>
    match Regex.find s e.regex start with
    | none => (text.drop start, false)
    | some (a, p) =>
      let before := (text.drop start).take (a - start)
      let empty := p.position = a
      if empty ∧ ended = some a then
        let (rest, any) := replaceFrom e sub text s fuel (a + 1) count none
        if text.length ≤ a then (before, false) else (before ++ (text.drop a).take 1 ++ rest, any)
      else
        let count := count + 1
        let chosen := sub.first ≤ count
        let here := if chosen then replacement text a p sub.pieces ⟨.plain, none⟩
          else (text.drop a).take (p.position - a)
        if chosen ∧ !sub.all then (before ++ here ++ text.drop p.position, true)
        else if empty then
          if text.length ≤ a then (before ++ here, chosen)
          else
            let (rest, any) := replaceFrom e sub text s fuel (a + 1) count none
            (before ++ here ++ (text.drop a).take 1 ++ rest, chosen || any)
        else
          let (rest, any) := replaceFrom e sub text s fuel p.position count (some p.position)
          (before ++ here ++ rest, chosen || any)

/-- The outlet of a file. -/
def outlet (name : Bytes) : Editing Outlet := do
  return ((← get).files.lookup name).getD .output

/-- Runs the text as a command; what that writes takes its place. -/
def runText (m : Manner) : Editing Unit := do
  let output ← work (outputOf (← get).space.text)
  let output := if output.getLast? = some m.ending then output.dropLast else output
  modify fun s => { s with space := ⟨output, s.space.ended⟩ }

/-- Replaces what matches an expression. -/
def substitute (m : Manner) (sub : Substitution) : Editing Unit := do
  let e ← expression sub.expression
  let text := (← get).space.text
  let (result, any) := replaceFrom e sub text (subject e text) (2 * text.length + 4) 0 0 none
  if any then
    modify fun s => { s with space := { s.space with text := result }, replaced := true }
    let ended := (← get).space.ended
    if sub.prints = some true then writeSpace m .output result ended
    if sub.runs then runText m
    let result := (← get).space.text
    if sub.prints = some false then writeSpace m .output result ended
    match sub.file with
    | some name => writeSpace m (← outlet name) result ended
    | none => pure ()

/-! ### Commands -/

/-- A byte so that it can be seen. -/
def visible (b : UInt8) : Bytes :=
  match b with
  | 0x5C => utf8 "\\\\"
  | 0x07 => utf8 "\\a"
  | 0x08 => utf8 "\\b"
  | 0x0C => utf8 "\\f"
  | 0x0A => utf8 "\\n"
  | 0x0D => utf8 "\\r"
  | 0x09 => utf8 "\\t"
  | 0x0B => utf8 "\\v"
  | _ =>
    if 0x20 ≤ b ∧ b ≤ 0x7E then [b]
    else [0x5C, 0x30 + b / 64, 0x30 + b / 8 % 8, 0x30 + b % 8]

/-- A text in lines in which every byte can be seen. -/
def listed (width : Nat) : Bytes → Nat → Bytes
  | [], _ => utf8 "$\n"
  | b :: rest, column =>
    let shown := visible b
    if 0 < width ∧ width - 1 < column + shown.length then
      utf8 "\\\n" ++ shown ++ listed width rest shown.length
    else shown ++ listed width rest (column + shown.length)

/-- The first line of a text. -/
def firstLine (m : Manner) (text : Bytes) : Bytes :=
  text.takeWhile (· ≠ m.ending)

/-- How a cycle goes on after a command. -/
inductive Flow where
  /-- With a command. -/
  | at_ (n : Nat)
  /-- It ends, and the text is written if it is to be. -/
  | cycleEnds
  /-- It ends without that. -/
  | cycleStops
  /-- It begins again with the text as it is. -/
  | again
  /-- Everything ends, after the text was written if it is to be. -/
  | quit (silent : Bool) (status : Nat)

/-- Whether a range has ended. -/
def rangeOver (c : Command) : Editing Bool := do
  match c.selector with
  | .range number _ _ => return ((← get).ranges.lookup number).isNone || c.negated
  | _ => return true

/-- Does what a command says. The next command is known. -/
def perform (m : Manner) (c : Command) (next : Nat) : Editing Flow := do
  let s ← get
  let text := s.space.text
  let setText := fun (t : Bytes) =>
    modify fun (s : State) => { s with space := { s.space with text := t } }
  let goOn : Editing Flow := return .at_ next
  match c.action with
  | .block _ => goOn
  | .nothing => goOn
  | .append t =>
    modify fun s => { s with later := .text t :: s.later }
    goOn
  | .insert t =>
    writeLines m .output t
    goOn
  | .change t =>
    if ← rangeOver c then writeLines m .output t
    return .cycleStops
  | .jump j label =>
    let jumps := match j with
      | .always => true
      | .ifReplaced => s.replaced
      | .unlessReplaced => !s.replaced
    if j ≠ .always then modify fun s => { s with replaced := false }
    if jumps then
      return .at_ (if label = [] then m.commands.size
        else (m.labels.lookup label).getD m.commands.size)
    else goOn
  | .delete => return .cycleStops
  | .deleteFirst =>
    let first := firstLine m text
    match text.drop first.length with
    | [] => return .cycleStops
    | _ :: rest =>
      setText rest
      return .again
  | .print =>
    writeSpace m .output text s.space.ended
    goOn
  | .printFirst =>
    writeSpace m .output (firstLine m text) true
    goOn
  | .next =>
    if ← isLast m (s.waiting.length + 2) then return .cycleEnds
    if !m.quiet then writeSpace m .output text s.space.ended
    if ← advance m false then goOn else return .cycleStops
  | .addNext =>
    if ← isLast m (s.waiting.length + 2) then
      return if m.common then .cycleStops else .cycleEnds
    if ← advance m true then goOn else return .cycleEnds
  | .hold =>
    modify fun s => { s with hold := s.space }
    goOn
  | .addHold =>
    modify fun s => { s with hold := ⟨s.hold.text ++ m.ending :: text, s.space.ended⟩ }
    goOn
  | .fetch =>
    modify fun s => { s with space := s.hold }
    goOn
  | .addFetch =>
    modify fun s => { s with space := ⟨text ++ m.ending :: s.hold.text, s.hold.ended⟩ }
    goOn
  | .exchange =>
    modify fun s => { s with space := s.hold, hold := s.space }
    goOn
  | .number =>
    writeLines m .output (utf8 (toString s.line ++ "\n"))
    goOn
  | .fileName =>
    writeLines m .output (s.name ++ [0x0A])
    goOn
  | .list width =>
    writeLines m .output (listed (width.getD m.width) text 0)
    goOn
  | .quit silent status => return .quit silent status
  | .readFile name =>
    modify fun s => { s with later := .file name :: s.later }
    goOn
  | .readLine name =>
    let source ← match s.readers.lookup name with
      | some r => pure (some r)
      | none =>
        match ← work (call (.openFile name .reading)) with
        | .ok fd => pure (some (Source.ofOpen fd))
        | .error _ => pure none
    match source with
    | none => goOn
    | some source =>
      let (line, source) ← work (source.line m.ending)
      modify fun s => { s with
        readers := (name, source) :: s.readers.filter (·.1 ≠ name)
        later := match line with
          | some l => .text (l.whole m.ending) :: s.later
          | none => s.later }
      goOn
  | .write first name =>
    let o ← outlet name
    if first then writeSpace m o (firstLine m text) true
    else writeSpace m o text s.space.ended
    goOn
  | .substitute sub =>
    substitute m sub
    goOn
  | .translate table =>
    setText (text.map fun b => (table.lookup b).getD b)
    goOn
  | .clear =>
    setText []
    goOn
  | .run command =>
    match command with
    | some command =>
      let output ← work (outputOf command)
      write m .output output
    | none =>
      runText m
      modify fun s => { s with space := { s.space with ended := true } }
    goOn

/-- Goes through the commands. -/
def cycle (m : Manner) : Nat → Nat → Editing Flow
  | 0, _ => return .cycleEnds
  | fuel + 1, n => do
    match m.commands[n]? with
    | none => return .cycleEnds
    | some c =>
      let selected ← isSelected m c
      match c.action with
      | .block finish => cycle m fuel (if selected then n + 1 else finish)
      | _ =>
        if !selected then cycle m fuel (n + 1)
        else
          match ← perform m c (n + 1) with
          | .at_ k => cycle m fuel k
          | f => return f

/-- The number of commands that are carried out for a line at most. -/
def commandLimit : Nat := 0x1000000

/-- Edits lines to the end. The first one may have been read already. -/
def lines (m : Manner) : Nat → Bool → Editing Unit
  | 0, _ => return ()
  | fuel + 1, ready => do
    let there ← if ready then pure true else advance m false
    if there then
      let show_ : Editing Unit := do
        if !m.quiet then
          let s ← get
          writeSpace m .output s.space.text s.space.ended
      match ← cycle m commandLimit 0 with
      | .quit silent status =>
        if !silent then
          show_
          writeLater m
        let rest := (← get).source
        match rest, m.inPlace with
        | some source, some _ =>
          let (bytes, _) ← work source.rest
          mend m .output
          send m .output bytes
          replaceFile m
        | _, _ => pure ()
        modify fun s => { s with status := status }
      | .again =>
        writeLater m
        lines m fuel true
      | .cycleStops => lines m fuel false
      | _ =>
        show_
        lines m fuel false

end Editing

/-! ### The tool -/

/-- The files that a script writes to. -/
def writtenFiles (commands : List Command) : List Bytes :=
  (commands.filterMap fun c => match c.action with
    | .write _ name => some name
    | .substitute s => s.file
    | _ => none).eraseDups

/-- The labels that a script jumps to. -/
def jumpLabels (commands : List Command) : List Bytes :=
  commands.filterMap fun c => match c.action with
    | .jump _ name => if name = [] then none else some name
    | _ => none

/-- The ranges that begin before the first line. -/
def earlyRanges (commands : List Command) : List (Nat × Option Nat) :=
  commands.filterMap fun c => match c.selector with
    | .range n (.line 0) _ => some (n, none)
    | _ => none

/-- A part of a script, with what its place is called: the number of an expression or the name of a
file. -/
structure Part where
  /-- The name of the file, or nothing for an expression. -/
  file : Option Bytes
  /-- The number among the expressions. -/
  number : Nat
  /-- The text. -/
  text : Bytes

/-- Says what is wrong with a script, and ends. -/
def blame {α : Type} (p : Part) (mistake : Mistake) (r : Reader) : Work α := do
  let place := fun (count : Nat) => match p.file with
    | some name =>
      let passed := p.text.take r.count
      let line := (passed.filter (· = 0x0A)).length + 1
      let line := if passed.getLast? = some 0x0A then line - 1 else line
      utf8 "file " ++ name ++ utf8 s!" line {line}: "
    | none => utf8 s!"-e expression #{p.number}, char {count}: "
  match mistake with
  | .here text => Work.fail 1 (place r.count ++ text)
  | .openBrace => Work.fail 1 (place 0 ++ utf8 "unmatched `\x7b'")
  | .somewhere text => Work.fail 4 text

/-- Reads the parts of a script. -/
def readParts : List Part → Bool → Reader → Work Reader
  | [], _, r => return r
  | p :: rest, first, r =>
    match (Reading.part first p.text).run r with
    | .ok (_, r) => readParts rest false r
    | .error (mistake, r) => blame p mistake r

/-- The parts of a script that options give. -/
def partsOf : List Given → Nat → Work (List Part)
  | [], _ => return []
  | g :: rest, number => do
    match g.key, g.value with
    | "e", some text => return ⟨none, number + 1, text⟩ :: (← partsOf rest (number + 1))
    | "f", some name =>
      match ← contentOf (if name = utf8 "/dev/stdin" then [0x2D] else name) with
      | .ok text =>
        let text := if text.getLast? = some 0x0A then text.dropLast else text
        return ⟨some name, 0, text⟩ :: (← partsOf rest number)
      | .error e => Work.fail 4 (utf8 "couldn't open file " ++ name ++ utf8 (": " ++ e.libraryText))
    | _, _ => partsOf rest number

/-- Opens a file that is written to. -/
def openOutlet (name : Bytes) : Work (Bytes × Outlet) := do
  if name = utf8 "/dev/stdout" then return (name, .output)
  else if name = utf8 "/dev/stderr" then return (name, .file 2)
  else
    match ← call (.openFile name .writing) with
    | .ok fd => return (name, .file fd)
    | .error e => Work.fail 4 (utf8 "couldn't open file " ++ name ++ utf8 (": " ++ e.libraryText))

/-- Says how the tool is called, and ends. -/
def usage {α : Type} : Work α := do
  emit (utf8 "Usage: " ++ (← get).name ++
    utf8 " [OPTION]... \x7bscript-only-if-no-other-script\x7d [input-file]...\n\n")
  exit 1

end Edit

open Edit Work in
/-- Edits streams as a script says. -/
def sed (args : List Bytes) : Work Unit := do
  let f ← Options.readOr usage [.flag "n" "quiet", .flag "n" "silent", .flag "" "debug",
    .valued "e" "expression", .valued "f" "file", .flag "" "follow-symlinks",
    ⟨"i", "in-place", .optional⟩, .valued "l" "line-length", .flag "" "posix",
    .flag "E" "regexp-extended", .flag "r" "", .flag "s" "separate", .flag "" "sandbox",
    .flag "u" "unbuffered", .flag "z" "null-data", .flag "z" "zero-terminated", .flag "b" "binary"]
    true args
  let given := f.has "e" || f.has "f"
  let (parts, files) ← if given then do pure (← partsOf f.given 0, f.operands)
    else
      match f.operands with
      | [] => usage
      | text :: rest => pure ([⟨none, 1, text⟩], rest)
  let start : Reader :=
    { rest := [], count := 0, extended := f.has "E" || f.has "r", common := f.has "posix"
      confined := f.has "sandbox", done := [], blocks := [], ranges := 0, labels := []
      waiting := false, quiet := false }
  let r ← readParts parts true start
  if r.waiting ∧ r.common then
    blame (parts.getLastD ⟨none, 1, []⟩) (.here (utf8 "incomplete command")) r
  if r.blocks ≠ [] then blame (parts.getLastD ⟨none, 1, []⟩) .openBrace r
  let commands := r.done.reverse
  match (jumpLabels commands).find? fun l => (r.labels.lookup l).isNone with
  | some l => Work.fail 4 (utf8 "can't find label for jump to `" ++ l ++ utf8 "'")
  | none => pure ()
  let outlets ← (writtenFiles commands).mapM openOutlet
  let inPlace := if f.has "i" then some ((f.value? "i").getD []) else none
  if inPlace.isSome ∧ files = [] then Work.fail 4 (utf8 "no input files")
  let m : Manner :=
    { commands := commands.toArray, labels := r.labels, quiet := f.has "n" || r.quiet
      separate := f.has "s" || f.has "i", inPlace := inPlace
      ending := if f.has "z" then 0 else 0x0A
      width := ((f.value? "l").map Amount.count).getD 70, common := f.has "posix" }
  let s : State :=
    { space := ⟨[], true⟩, hold := ⟨[], true⟩, line := 0, source := none, name := utf8 "-"
      waiting := inputsOf files, last := none, replaced := false, later := []
      ranges := earlyRanges commands, files := outlets, readers := [], unended := []
      content := [], status := 0 }
  let (_, s) ← (Editing.lines m 0x10000000 false).run s
  match ← flush with
  | some e => abandon (utf8 ("couldn't flush stdout: " ++ e.libraryText))
  | none => fault s.status

end CommandShell.Tool
