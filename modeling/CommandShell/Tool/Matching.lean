import CommandShell.Script.Pattern
import CommandShell.Text.RichSyntax
import CommandShell.Tool.Input
import CommandShell.Tool.Words

/-!
# Finding lines

The lines of files that match patterns are written, or those that do not, or what matches in them,
or how many there are, or only the names of the files.
-/

namespace CommandShell.Tool

open Work Text

namespace Matching

/-- What a line has to be to match. -/
structure Demand where
  /-- The patterns, any of which may match. -/
  patterns : List Regex
  /-- Upper and lower case are the same. -/
  folds : Bool
  /-- A match is a whole word. -/
  words : Bool
  /-- A match is the whole line. -/
  whole : Bool
  /-- The match that is come to first is taken, not the longest. -/
  first : Bool

/-- Whether what stands from one place to another is a word of its own. -/
def isWord (s : Regex.Subject) (start finish : Nat) : Bool :=
  !s.wordBefore start && !s.wordAfter finish

/-- The match that begins at a place and is preferred: where it is taken to begin, and its end. -/
def matchAt (d : Demand) (s : Regex.Subject) (start : Nat) : Option (Nat × Nat) :=
  let found := d.patterns.flatMap fun r => Regex.places s r ⟨start, []⟩
  let fitting := found.filter fun p =>
    (!d.whole || (start = 0 && p.position = s.bytes.size)) &&
      (!d.words || isWord s start p.position)
  if d.first then
    fitting.head?.map fun p => (((p.parts.lookup 0).map (·.1)).getD start, p.position)
  else
    fitting.foldl (fun best p => some (start, max p.position ((best.map (·.2)).getD 0))) none

/-- The first match that begins at one of some places. -/
def find (d : Demand) (s : Regex.Subject) : Nat → Nat → Option (Nat × Nat)
  | 0, _ => none
  | count + 1, start =>
    match matchAt d s start with
    | some found => some found
    | none => if d.whole then none else find d s count (start + 1)

/-- All matches that are not empty, from a place on. -/
def findAll (d : Demand) (s : Regex.Subject) : Nat → Nat → List (Nat × Nat)
  | 0, _ => []
  | fuel + 1, start =>
    match find d s (s.bytes.size + 1 - start) start with
    | none => []
    | some (a, b) =>
      if a = b then findAll d s fuel (max start a + 1) else (a, b) :: findAll d s fuel b

/-- What is written. -/
inductive Report where
  /-- Lines. -/
  | lines
  /-- The parts of lines that match. -/
  | parts
  /-- The number of lines. -/
  | count
  /-- The names of files with lines, or of those without. -/
  | names (without : Bool)
  /-- Nothing. -/
  | nothing
deriving DecidableEq

/-- How files are gone through. -/
structure Manner where
  /-- What a line has to be. -/
  demand : Demand
  /-- The lines that do not match are meant. -/
  inverted : Bool
  /-- What is written. -/
  report : Report
  /-- Names of files stand in front. -/
  names : Bool
  /-- Numbers of lines stand in front. -/
  numbers : Bool
  /-- Numbers of bytes stand in front. -/
  offsets : Bool
  /-- What follows the names of files. -/
  afterName : Option UInt8
  /-- Lines begin at a stop for tabs, and numbers have a width. -/
  aligned : Bool
  /-- The number of lines that are looked for. -/
  most : Option Nat
  /-- The number of lines before a line that are written as well. -/
  before : Nat
  /-- The number of lines after it. -/
  after : Nat
  /-- What separates groups of lines, if anything does. -/
  separator : Option Bytes
  /-- What ends lines. -/
  ending : UInt8
  /-- Files that cannot be read are not worth a complaint. -/
  silent : Bool
  /-- Files that are no texts are read like texts. -/
  asText : Bool
  /-- Files that are no texts are taken for texts in which nothing is found. -/
  passesBinary : Bool
  /-- What is found and what stands in front of it has colours. -/
  coloured : Bool

/-- A line that was read. -/
structure Line where
  /-- Its bytes. -/
  bytes : Bytes
  /-- Its number. -/
  number : Nat
  /-- The number of bytes before it. -/
  offset : Nat

/-- A text in a colour, if there are colours. -/
def paint (m : Manner) (colour : String) (text : Bytes) : Bytes :=
  if m.coloured ∧ text ≠ [] then
    utf8 ("\x1b[" ++ colour ++ "m\x1b[K") ++ text ++ utf8 "\x1b[m\x1b[K"
  else text

/-- The colour of the names of files. -/
def nameColour : String := "35"

/-- The colour of numbers. -/
def numberColour : String := "32"

/-- The colour of what separates things. -/
def markColour : String := "36"

/-- The colour of what is found. -/
def foundColour : String := "01;31"

/-- The name of a file, and what follows it. -/
def named (m : Manner) (name : Bytes) (mark : UInt8) : Bytes :=
  let after := match m.afterName with
    | some b => [b]
    | none => paint m markColour [mark]
  paint m nameColour name ++ after

/-- What stands in front of a line or a part of one. -/
def front (m : Manner) (name : Bytes) (mark : UInt8) (number offset : Nat) : Bytes :=
  let shown := fun (n : Nat) =>
    let digits := utf8 (toString n)
    let width := if m.aligned then 2 else 0
    let filled := List.replicate (width - digits.length) (0x20 : UInt8) ++ digits
    paint m numberColour filled ++ paint m markColour [mark]
  let parts := (if m.names then named m name mark else []) ++
    (if m.numbers then shown number else []) ++ (if m.offsets then shown offset else [])
  if m.aligned ∧ parts ≠ [] then parts ++ [0x09] else parts

/-- How far a file has been gone through. -/
structure Progress where
  /-- The number of lines that were found. -/
  found : Nat
  /-- The lines before that are not written, last first. -/
  kept : List Line
  /-- The number of lines that are still to be written after the last one found. -/
  left : Nat
  /-- The number of the last line that was written. -/
  last : Nat
  /-- Whether anything was written yet, also of other files. -/
  started : Bool

/-- A text from a place on, where what is found is painted. -/
def painted (m : Manner) (bytes : Bytes) : Nat → List (Nat × Nat) → Bytes
  | start, [] => bytes.drop start
  | start, (a, b) :: rest =>
    (bytes.drop start).take (a - start) ++ paint m foundColour ((bytes.drop a).take (b - a)) ++
      painted m bytes b rest

/-- Writes a line. What is found in it is painted if there are colours. -/
def writeLine (m : Manner) (name : Bytes) (mark : UInt8) (l : Line) : Work Unit :=
  let matching := (mark = 0x3A) != m.inverted
  let s : Regex.Subject := ⟨l.bytes.toArray, m.demand.folds, false⟩
  let shown := if m.coloured ∧ matching then
      painted m l.bytes 0 (findAll m.demand s (s.bytes.size + 2) 0)
    else l.bytes
  put (front m name mark l.number l.offset ++ shown ++ [m.ending])

/-- Writes a line that was found, after those before it. -/
def writeFound (m : Manner) (name : Bytes) (l : Line) (s : Regex.Subject) (p : Progress) :
    Work Progress := do
  let earlier := p.kept.reverse
  let first := (earlier.head?.getD l).number
  if p.started ∧ (p.last = 0 ∨ p.last + 1 < first) then
    match m.separator with
    | some text => putLine (paint m markColour text)
    | none => pure ()
  for k in earlier do
    if m.report = .lines then writeLine m name 0x2D k
  if m.report = .lines then writeLine m name 0x3A l
  else if !m.inverted then
    for (a, b) in findAll m.demand s (s.bytes.size + 2) 0 do
      let part := paint m foundColour ((l.bytes.drop a).take (b - a))
      put (front m name 0x3A l.number (l.offset + a) ++ part ++ [m.ending])
  return { p with kept := [], left := m.after, last := l.number, started := true }

/-- Goes through the lines of a file. -/
def lines (m : Manner) (name : Bytes) (text : Bool) : List Line → Progress → Work Progress
  | [], p => return p
  | l :: rest, p => do
    let full : Bool := (m.most.map fun n => decide (n ≤ p.found)).getD false
    if full ∧ p.left = 0 then return p
    let s : Regex.Subject := ⟨l.bytes.toArray, m.demand.folds, false⟩
    let found := (find m.demand s (s.bytes.size + 1) 0).isSome != m.inverted
    if found ∧ !full then
      let p := { p with found := p.found + 1 }
      match m.report with
      | .nothing => return p
      | .names _ => return p
      | .count => lines m name text rest p
      | _ =>
        if text then lines m name text rest (← writeFound m name l s p)
        else
          say (name ++ utf8 ": binary file matches")
          return p
    else if full ∧ found then return p
    else if 0 < p.left then
      if m.report = .lines then writeLine m name 0x2D l
      lines m name text rest { p with left := p.left - 1, last := l.number }
    else
      let kept := (l :: p.kept).take m.before
      lines m name text rest { p with kept := kept }

/-- The lines of a text with their numbers. -/
def numbered (ending : UInt8) (text : Bytes) : List Line :=
  let step := fun (acc : List Line × Nat × Nat) (l : TextLine) =>
    (⟨l.bytes, acc.2.1, acc.2.2⟩ :: acc.1, acc.2.1 + 1, acc.2.2 + l.bytes.length + 1)
  ((linesOf ending text).foldl step ([], 1, 0)).1.reverse

/-- Whether bytes are no text. -/
def isBinary (m : Manner) (bytes : Bytes) : Bool :=
  !m.asText && m.ending ≠ 0 && bytes.contains 0

/-- Goes through what was read of a file. The answer is whether something was found. In a file that
is no text, zeros end lines as well. -/
def text (m : Manner) (name bytes : Bytes) (started : Bool) : Work (Bool × Bool) := do
  let binary := isBinary m bytes
  let all := numbered m.ending
    (if binary then bytes.map fun b => if b = 0 then 0x0A else b else bytes)
  let none_ : Progress := ⟨0, [], 0, 0, started⟩
  let p ← if m.most = some 0 ∨ (binary ∧ m.passesBinary) then pure none_
    else lines m name (!binary) all none_
  match m.report with
  | .count =>
    put ((if m.names then named m name 0x3A else []) ++ utf8 (toString p.found) ++ [0x0A])
  | .names without =>
    if (p.found = 0) = without then put (paint m nameColour name ++ [m.afterName.getD 0x0A])
  | _ => pure ()
  return (0 < p.found, p.started)

/-- A complaint about a file. -/
def blame (m : Manner) (name : Bytes) (e : Errno) : Work Unit :=
  if m.silent then fault 2
  else do
    complainOf name e
    fault 2

/-- What is done with directories. -/
inductive Directories where
  | read | skip
  /-- All in them is gone through; also what links lead to if that is said. -/
  | enter (through : Bool)
deriving DecidableEq

/-- Which files and directories are gone through, by their names. -/
structure Choice where
  /-- Patterns of the names of files, with whether the files are gone through; what the last pattern
  says counts. -/
  files : List (Bool × Bytes)
  /-- None of these may describe the name of a directory. -/
  directories : List Bytes

/-- Whether a pattern describes a name. -/
def describes (name pattern : Bytes) : Bool :=
  Script.Pattern.describes (pattern.map fun b => (b, false)) name

/-- Whether a pattern describes a path, or what follows a slash in it. -/
def describesEnd (pattern : Bytes) : Bytes → Bool
  | [] => false
  | b :: rest =>
    (b = slash && !rest.isEmpty && rest.head? ≠ some slash && describes rest pattern) ||
      describesEnd pattern rest

/-- Whether a pattern is meant for a name. Paths that are given may also be described in part. -/
def isFor (given : Bool) (name pattern : Bytes) : Bool :=
  describes name pattern || (given && describesEnd pattern name)

/-- Whether a file or a directory of a name is gone through. If no pattern describes a file, it is
as if the first one did not mean it. -/
def Choice.takes (c : Choice) (directory given : Bool) (name : Bytes) : Bool :=
  if directory then !c.directories.any (isFor given name)
  else
    match c.files.reverse.find? fun p => isFor given name p.2, c.files with
    | some p, _ => p.1
    | none, p :: _ => !p.1
    | none, [] => true

/-- The results so far: whether something was found, and whether something was written. -/
structure Findings where
  /-- Something was found. -/
  found : Bool
  /-- Something was written. -/
  started : Bool

/-- Goes through a file or a directory. Names of entries below may be written without the directory.
-/
def entry (m : Manner) (d : Directories) (c : Choice) :
    Nat → Bool → Bool → Bytes → Findings → Work Findings
  | 0, _, _, _, o => return o
  | fuel + 1, top, bare, path, o => do
    if m.report = .nothing ∧ o.found then return o
    let input := isInput path && top
    let facts : Except Errno Facts ←
      if input then call (.factsOf 0) else call (.facts path (top || d = .enter true))
    let enters : Bool := match d with
      | .enter _ => true
      | _ => false
    match facts with
    | .error e =>
      blame m path e
      return o
    | .ok f =>
      if f.kind = .link then return o
      if f.kind = .directory ∧ d = .skip then return o
      let isTaken := (bare && top) || input ||
        c.takes (f.kind = .directory) top (if top then path else lastName path)
      if !isTaken then return o
      if f.kind = .directory ∧ enters ∧ !input then
        match ← call (.children path) with
        | .error e =>
          blame m path e
          return o
        | .ok children =>
          let mut o := o
          for (name, _) in children do
            o ← entry m d c fuel false false (if bare then name else below path name) o
          return o
      else
        match ← openInput path with
        | .error e =>
          blame m path e
          return o
        | .ok fd =>
          let (bytes, s) ← (Source.ofOpen fd).rest
          closeInput path fd
          match s.failure with
          | some e => blame m path e
          | none => pure ()
          let name := if input then utf8 "(standard input)" else path
          let (found, started) ← text m name bytes o.started
          return ⟨o.found || found, started⟩

/-- Says how the tool is called, by the last name of its path, and ends with a status. -/
def usage {α : Type} (status : Nat) : Work α := do
  let name := lastName (← get).name
  emit (utf8 "Usage: " ++ name ++ utf8 " [OPTION]... PATTERNS [FILE]...\nTry '" ++ name ++
    utf8 " --help' for more information.\n")
  exit status

/-- The expression that is a text and nothing else. -/
def literal (bytes : Bytes) : Regex :=
  bytes.foldr (fun b r => .then (.byte b) r) .empty

/-- The options of the tool. -/
def switches : List Switch :=
  [.flag "E" "extended-regexp", .flag "F" "fixed-strings", .flag "G" "basic-regexp",
   .flag "P" "perl-regexp", .valued "e" "regexp", .valued "f" "file", .flag "i" "ignore-case",
   .flag "y" "", .flag "" "no-ignore-case", .flag "w" "word-regexp", .flag "x" "line-regexp",
   .flag "z" "null-data", .flag "s" "no-messages", .flag "v" "invert-match",
   .valued "m" "max-count", .flag "b" "byte-offset", .flag "n" "line-number",
   .flag "" "line-buffered", .flag "H" "with-filename", .flag "h" "no-filename",
   .valued "" "label", .flag "o" "only-matching", .flag "q" "quiet", .flag "q" "silent",
   .valued "" "binary-files", .flag "a" "text", .flag "I" "", .valued "d" "directories",
   .valued "D" "devices", .flag "r" "recursive", .flag "R" "dereference-recursive",
   .valued "" "include", .valued "" "exclude", .valued "" "exclude-from",
   .valued "" "exclude-dir",
   .flag "L" "files-without-match", .flag "l" "files-with-matches", .flag "c" "count",
   .flag "T" "initial-tab", .flag "Z" "null", .valued "B" "before-context",
   .valued "A" "after-context", .valued "C" "context", ⟨"", "color", .optional⟩,
   ⟨"", "colour", .optional⟩, .flag "U" "binary", .valued "" "group-separator",
   .flag "" "no-group-separator"] ++ Switch.letters "0123456789"

/-- The words for when there are colours, and whether there are. -/
def colourWords : List (String × Bool) :=
  [("always", true), ("yes", true), ("force", true), ("never", false), ("no", false),
   ("none", false), ("auto", false), ("tty", false), ("if-tty", false)]

end Matching

open Matching in
/-- Finds lines that match patterns. -/
def grep (usual : String) (args : List Bytes) : Work Unit := do
  if usual ≠ "G" then modify fun d => { d with name := utf8 "grep" }
  let f ← Options.readOr (usage 2) switches true args
  let values := fun (key : String) =>
    f.given.filterMap fun g => if g.key = key then g.value else none
  let length : Bytes → Work Nat := fun t =>
    match Amount.ofText "" t with
    | .number n => return n
    | _ => fail 2 (t ++ utf8 ": invalid context length argument")
  let mut before : Option Nat := none
  let mut after : Option Nat := none
  let mut around : Option Nat := none
  let mut most : Option Nat := none
  let mut wanted : List Bytes := []
  let mut chosen : List (Bool × Bytes) := []
  let mut given := false
  for g in f.given do
    let value := g.value.getD []
    match g.key with
    | "A" => after := some (← length value)
    | "B" => before := some (← length value)
    | "C" => around := some (← length value)
    | "m" =>
      match Amount.ofText "kKMGTPE" value, value with
      | .number n, _ => most := some n
      | _, 0x2D :: _ => most := none
      | _, _ => fail 2 (utf8 "invalid max count")
    | "include" => chosen := chosen ++ [(true, value)]
    | "exclude" => chosen := chosen ++ [(false, value)]
    | "exclude-from" =>
      match ← contentOf value with
      | .ok bytes =>
        let isSpace := fun (b : UInt8) => b = 0x20 || (0x09 ≤ b && b ≤ 0x0D)
        let lines := (linesOf 0x0A bytes).map fun l =>
          (l.bytes.reverse.dropWhile isSpace).reverse
        chosen := chosen ++ (lines.filter (· ≠ [])).map fun l => (false, l)
      | .error e => fail 2 (value ++ utf8 (": " ++ e.libraryText))
    | "e" =>
      given := true
      wanted := wanted ++ value.splitOn 0x0A
    | "f" =>
      given := true
      match ← contentOf value with
      | .ok bytes => wanted := wanted ++ (linesOf 0x0A bytes).map (·.bytes)
      | .error e => fail 2 (value ++ utf8 (": " ++ e.libraryText))
    | _ => pure ()
  let digits := (f.given.map (·.key)).filter fun k => (utf8 k).all Amount.isDigit
  if digits ≠ [] then around := some (Amount.count (utf8 (String.join digits)))
  let (patterns, files) ←
    if given then pure (wanted, f.operands)
    else
      match f.operands with
      | [] => usage 2
      | p :: rest => pure (p.splitOn 0x0A, rest)
  let kinds := (f.given.map (·.key)).filter ["E", "F", "G", "P"].contains
  let kind := kinds.getLastD usual
  if (kinds ++ if usual = "G" then [] else [usual]).any (· ≠ kind) then
    fail 2 (utf8 "conflicting matchers specified")
  let isVain : Bool := most = some 0 ||
    if f.has "v" then patterns.eraseDups = [[]] && !f.has "x" && !f.has "w"
    else patterns.isEmpty
  if isVain ∧ f.last? ["L", "l"] ≠ some "L" then exit 1
  let dialect : Regex.Dialect := ⟨kind = "E", false, true, false⟩
  let foldings := f.last? ["i", "y", "no-ignore-case"]
  let folds : Bool := foldings = some "i" || foldings = some "y"
  if kind = "P" ∧ 1 < patterns.length then
    fail 2 (utf8 "the -P option only supports a single pattern")
  let compiled ← patterns.mapM fun p => do
    if kind = "F" then pure (literal p)
    else if kind = "P" then
      match Regex.Rich.parse folds p with
      | .ok r => pure r
      | .error e => fail 2 (utf8 e)
    else
      match Regex.parse dialect p with
      | .ok (r, _, idle) =>
        for i in idle do
          say (utf8 ("warning: " ++ i ++ " at start of expression"))
        pure r
      | .error e => fail 2 (utf8 e.text)
  let recursion := f.last? ["d", "r", "R"]
  let directories ← match recursion with
    | some "r" => pure (Directories.enter false)
    | some "R" => pure (Directories.enter true)
    | some _ =>
      match (f.value? "d").getD [] with
      | w => do
        if w = utf8 "skip" then pure .skip
        else if w = utf8 "recurse" then pure (.enter false)
        else if w = utf8 "read" then pure .read
        else
          say (utf8 "invalid argument " ++ Quote.plain w ++ utf8 " for '--directories'")
          emit (utf8 "Valid arguments are:\n  - 'read'\n  - 'recurse'\n  - 'skip'\n")
          usage 1
    | none => pure .read
  let enters : Bool := match directories with
    | .enter _ => true
    | _ => false
  let targets := if files ≠ [] then files else if enters then [utf8 "."] else [[0x2D]]
  let single ← match targets with
    | [path] =>
      if enters ∧ !isInput path then
        match ← call (.facts path true) with
        | .ok k => pure (k.kind ≠ .directory : Bool)
        | .error _ => pure true
      else pure true
    | _ => pure false
  let names := match f.last? ["H", "h"] with
    | some "H" => true
    | some _ => false
    | none => !single
  let report : Report :=
    if f.has "q" then .nothing
    else
      match f.last? ["L", "l"] with
      | some "L" => .names true
      | some _ => .names false
      | none => if f.has "c" then .count else if f.has "o" then .parts else .lines
  let isGrouped := before.isSome || after.isSome || around.isSome
  let context := (before.orElse fun _ => around).getD 0
  let following := (after.orElse fun _ => around).getD 0
  let colours ← (f.given.filter fun g => g.key = "color" ∨ g.key = "colour").mapM fun g =>
    match colourWords.find? fun w => utf8 w.1 = g.value.getD (utf8 "auto") with
    | some w => pure w.2
    | none => exit 0
  for word in values "binary-files" do
    if !(["binary", "text", "without-match"].any (utf8 · = word)) then
      fail 2 (utf8 "unknown binary-files type")
  let treatment := (f.given.filterMap fun g =>
    if g.key = "a" then some (utf8 "text") else if g.key = "I" then some (utf8 "without-match")
    else if g.key = "binary-files" then g.value else none).getLast?
  let m : Manner :=
    { demand := ⟨compiled, folds, f.has "w", f.has "x", kind = "P"⟩
      inverted := f.has "v", report := report, names := names, numbers := f.has "n"
      offsets := f.has "b", afterName := if f.has "Z" then some 0 else none
      aligned := f.has "T", most := most
      before := context, after := following, ending := if f.has "z" then 0 else 0x0A
      separator := match isGrouped, f.last? ["group-separator", "no-group-separator"] with
        | false, _ => none
        | true, some "no-group-separator" => none
        | true, some _ => f.value? "group-separator"
        | true, none => some (utf8 "--")
      silent := f.has "s", asText := treatment = some (utf8 "text")
      passesBinary := treatment = some (utf8 "without-match")
      coloured := colours.getLast?.getD false }
  let choice : Choice := ⟨chosen, (values "exclude-dir").map withoutSlashes⟩
  let mut o : Findings := ⟨false, false⟩
  for path in targets do
    o ← entry m directories choice 4096 true (files = []) path o
  if o.found ∧ ((← get).status = 0 ∨ report = .nothing) then exit 0
  if !o.found then fault 1

/-- Finds lines that match patterns, in directories and in all that is below them. -/
def rgrep (args : List Bytes) : Work Unit := do
  modify fun d => { d with name := utf8 "grep" }
  grep "G" (utf8 "-r" :: args)

end CommandShell.Tool
