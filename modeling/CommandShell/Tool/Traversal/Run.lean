import CommandShell.Script.Pattern
import CommandShell.Tool.Listing.Entry
import CommandShell.Tool.Runner
import CommandShell.Tool.Traversal.Expression

/-!
# Searching for files

A search goes through files and what is below them, a directory before its entries or after them.
For each of them an expression is evaluated, and what the expression does is done. Commands that are
run for several entries at once are run when a directory is left that they belong to, or at the end.
-/

namespace CommandShell.Tool

open Work

namespace Traversal

/-! ### Entries -/

/-- Which links are followed. -/
inductive Following where
  | never | starts | always
deriving DecidableEq

/-- How a search is done. -/
structure Manner where
  /-- Which links are followed. -/
  following : Following
  /-- Entries come before their directory. -/
  bottomUp : Bool
  /-- How far below a start nothing is evaluated. -/
  least : Nat
  /-- How far below a start the search goes. -/
  most : Nat
  /-- How expressions for paths are written. -/
  writing : Writing

/-- Something that is found. -/
structure Entry where
  /-- Where the search for it began. -/
  start : Bytes
  /-- Its path. -/
  path : Bytes
  /-- How far below the start it is. -/
  depth : Nat
  /-- What it is. -/
  facts : Facts

/-- The facts about a path. A link that leads nowhere stands for itself. -/
def factsOf (through : Bool) (path : Bytes) : Work (Except Errno Facts) := do
  let itself : Except Errno Facts ← call (.facts path false)
  match itself with
  | .ok f =>
    if through ∧ f.kind = .link then
      let goal : Except Errno Facts ← call (.facts path true)
      match goal with
      | .ok g => return .ok g
      | .error _ => return .ok f
    else return itself
  | .error _ => return itself

/-- Whether links are followed at a depth. -/
def Manner.follows (m : Manner) (depth : Nat) : Bool :=
  m.following = .always || (m.following = .starts && depth = 0)

/-- The path of an entry below the start. -/
def Entry.rest (e : Entry) : Bytes :=
  if e.depth = 0 then [] else (e.path.drop e.start.length).dropWhile (· = slash)

/-- The name of an entry. -/
def Entry.name (e : Entry) : Bytes :=
  lastName e.path

/-- The path of the directory that an entry is in. -/
def Entry.front (e : Entry) : Bytes :=
  if e.path.contains slash then
    let front := (e.path.reverse.dropWhile (· ≠ slash)).tail.reverse
    if front = [] then [slash] else front
  else utf8 "."

/-- The letter of a kind. -/
def kindLetter (f : Facts) : UInt8 :=
  match f.kind with
  | .file => 0x66
  | .directory => 0x64
  | .link => 0x6C
  | .pipe => 0x70
  | .device => 0x63

/-- The path of an entry from its own directory. -/
def Entry.nearPath (e : Entry) : Bytes :=
  utf8 "./" ++ e.name

/-! ### Facts in formats -/

/-- A number in base eight. -/
def octal (n : Nat) : Bytes :=
  utf8 (String.ofList (Nat.toDigits 8 n))

/-- The billionths of a second of a time, as many digits of them, and a zero behind. -/
def fractionText (time : Int) : Bytes :=
  let digits := Text.Format.digits 10 false (time.fmod Text.Calendar.billion).toNat
  0x2E :: List.replicate (9 - digits.length) (0x30 : UInt8) ++ digits ++ [0x30]

/-- A time in full. -/
def wholeTime (zone : Text.Calendar.Zone) (time : Int) : Bytes :=
  Text.Calendar.shown zone (utf8 "%a %b %e %T") time ++ fractionText time ++
    Text.Calendar.shown zone (utf8 " %Y") time

/-- A part of a time, by its letter. Seconds have a fraction. -/
def timePart (zone : Text.Calendar.Zone) (time : Int) (letter : UInt8) : Bytes :=
  let shown := fun (format : Bytes) => Text.Calendar.shown zone format time
  match letter with
  | 0x40 => utf8 (toString (time.fdiv Text.Calendar.billion)) ++ fractionText time
  | 0x2B => shown (utf8 "%F+%T") ++ fractionText time
  | 0x53 | 0x54 | 0x58 => shown [0x25, letter] ++ fractionText time
  | _ => shown [0x25, letter]

/-- A fact about an entry as it is written. -/
def factText (e : Entry) (letter : UInt8) : Work Bytes := do
  let f := e.facts
  let number := fun (n : Nat) => utf8 (toString n)
  match letter with
  | 0x70 => return e.path
  | 0x66 => return if e.path.all (· = slash) then e.path else e.name
  | 0x68 => return e.front
  | 0x48 => return e.start
  | 0x50 => return e.rest
  | 0x64 => return number e.depth
  | 0x73 => return number f.size
  | 0x79 => return [kindLetter f]
  | 0x59 =>
    if f.kind ≠ .link then return [kindLetter f]
    let goal : Except Errno Facts ← call (.facts e.path true)
    match goal with
    | .ok g => return [kindLetter g]
    | .error .tooManyLinks => return utf8 "L"
    | .error _ => return utf8 "N"
  | 0x6D => return octal f.mode
  | 0x4D => return Description.letters f
  | 0x6C =>
    let content : Except Errno Bytes ← call (.linkContent e.path)
    match content with
    | .ok text => return if f.kind = .link then text else []
    | .error _ => return []
  | 0x75 => return utf8 "root"
  | 0x67 => return utf8 "root"
  | 0x6E => return number (← Description.nameCount e.path e.facts)
  | 0x74 => return wholeTime (← zone) f.modified
  | 0x63 => return wholeTime (← zone) f.modified
  | 0x61 => return wholeTime (← zone) f.accessed
  | 0x69 => return number f.number
  | 0x6B => return number (4 * Description.units f)
  | 0x62 => return number (8 * Description.units f)
  | _ => return utf8 "0"

/-- A text filled up with blanks or zeros to a width, and cut to a length. -/
def fitted (text flags : Bytes) (width : Nat) (most : Option Nat) : Bytes :=
  let text := match most with
    | some n => text.take n
    | none => text
  let blanks := List.replicate (width - text.length) 0x20
  if flags.contains 0x2D then text ++ blanks else blanks ++ text

/-- The text of a format for an entry. -/
def formatted (e : Entry) : List Piece → Work Bytes
  | [] => return []
  | .stop :: _ => return []
  | .text bytes :: rest => return bytes ++ (← formatted e rest)
  | .fact letter flags width most :: rest => do
    let text ← factText e letter
    return fitted text flags width most ++ (← formatted e rest)
  | .time accessed letter flags width most :: rest => do
    let time := if accessed then e.facts.accessed else e.facts.modified
    let text := timePart (← zone) time letter
    return fitted text flags width most ++ (← formatted e rest)

/-- An entry with what is known of it. -/
def listed (e : Entry) : Work Bytes := do
  let f := e.facts
  let names ← Description.nameCount e.path f
  let moment := Listing.TimeStyle.usual.shown (← zone) (← present) f.modified
  let filled := fun (width : Nat) (text : Bytes) => Listing.Field.filled ⟨text, false⟩ width
  let owner := Listing.Field.filled ⟨utf8 "root", true⟩ 8
  let goal : Except Errno Bytes ←
    if f.kind = .link then call (.linkContent e.path) else pure (.ok [])
  let arrow := match goal with
    | .ok [] => []
    | .ok text => utf8 " -> " ++ text
    | .error _ => []
  let fields := [filled 9 (Scale.decimal f.number),
    filled 6 (Scale.decimal (4 * Description.units f)), Description.letters f,
    filled 3 (Scale.decimal names), owner, owner,
    filled 8 (Listing.sizeText (.units 1 []) f), moment, e.path ++ arrow]
  return [0x20].intercalate fields ++ [0x0A]

/-! ### Evaluation -/

/-- Entries that a command is to be run for. -/
structure Pending where
  /-- The number of the action. -/
  number : Nat
  /-- The command. -/
  command : Command
  /-- The directory that it is run in, if it is not that of the search. -/
  directory : Option Bytes
  /-- The paths, last first. -/
  paths : List Bytes

/-- What a search has come to. -/
structure Progress where
  /-- What is below the last entry is left out. -/
  pruned : Bool
  /-- What is still to be run. -/
  pending : List Pending

/-- Replaces the mark for an entry in a word. -/
def filled (path : Bytes) : Bytes → Bytes
  | 0x7B :: 0x7D :: rest => path ++ filled path rest
  | b :: rest => b :: filled path rest
  | [] => []

/-- Runs a command, in a directory if one is given; the answer is whether it succeeded. -/
def execute (directory : Option Bytes) (words : List Bytes) : Work Bool := do
  let _ ← flush
  let pid ← spawn do
    match directory with
    | some d => let _ ← call (.enter d)
    | none => pure ()
    let e ← become words (← get).environment
    say (Quote.plain (words.headD []) ++ utf8 (": " ++ e.libraryText))
    exit 1
  let ended : Except Errno (Option (Nat × Ending)) ← call (.wait (some pid) none)
  match ended with
  | .ok (some (_, .exited 0)) => return true
  | _ => return false

/-- Runs what is still to be run of some. -/
def finish : List Pending → Work Unit
  | [] => return ()
  | p :: rest => do
    let paths := p.paths.reverse
    let words := p.command.words.flatMap fun w => if w = [0x7B, 0x7D] then paths else [w]
    if !(← execute p.directory words) then fault 1
    finish rest

/-- Writes something. -/
def writeTo (goal : Goal) (bytes : Bytes) : Work Unit :=
  match goal with
  | .output => put bytes
  | .file fd => do
    let _ ← call (.write fd bytes)

/-- A text with the letters in lower case, if case does not matter. -/
def lowered (folds : Bool) (text : Bytes) : Bytes :=
  if folds then text.map Text.Regex.lower else text

/-- Whether a check is true of an entry. -/
def holds (m : Manner) (e : Entry) : Check → Work Bool
  | .always is => return is
  | .described aspect pattern folds => do
    let text ← match aspect with
      | .name => pure (some (if e.path.all (· = slash) then e.path else e.name))
      | .path => pure (some e.path)
      | .content =>
        if e.facts.kind ≠ .link then pure none
        else
          let content : Except Errno Bytes ← call (.linkContent e.path)
          match content with
          | .ok text => pure (some text)
          | .error _ => pure none
    let marks := (lowered folds pattern).map fun b => (b, false)
    return text.any fun t => Script.Pattern.describes marks (lowered folds t)
  | .matches r folds =>
    let s : Text.Regex.Subject := ⟨e.path.toArray, folds, false⟩
    return (Text.Regex.places s r ⟨0, []⟩).any fun p => p.position = e.path.length
  | .ofKind letters otherwise => do
    if !otherwise then return letters.contains (kindLetter e.facts)
    let through := m.following ≠ .always && !(m.following = .starts && e.depth = 0)
    match ← factsOf through e.path with
    | .ok f => return letters.contains (kindLetter f)
    | .error _ => return false
  | .empty => do
    match e.facts.kind with
    | .file => return e.facts.size = 0
    | .directory =>
      let listed : Except Errno (List (Name × Kind)) ← call (.children e.path)
      match listed with
      | .ok found => return found.isEmpty
      | .error _ => return false
    | _ => return false
  | .size unit c => return c.admits ((e.facts.size + unit - 1) / unit)
  | .mode bits value =>
    match bits with
    | .exactly => return e.facts.mode = value
    | .all => return e.facts.mode &&& value = value
    | .any => return value = 0 || e.facts.mode &&& value ≠ 0
  | .permits bit => do
    let goal : Except Errno Facts ← call (.facts e.path true)
    match goal with
    | .ok f => return f.mode &&& bit ≠ 0
    | .error _ => return false
  | .time accessed s =>
    return s.admits (if accessed then e.facts.accessed else e.facts.modified)
  | .number c => return c.admits e.facts.number
  | .names c => return c.admits (← Description.nameCount e.path e.facts)
  | .same location => return e.facts.location = location

/-- Adds an entry to what is to be run. A command that is run nearby is first run for entries of
other directories. -/
def gathered (c : Command) (number : Nat) (e : Entry) (p : Progress) : Work Progress := do
  let directory := if c.nearby then some e.front else none
  let path := if c.nearby then e.nearPath else e.path
  match p.pending.find? (·.number = number) with
  | some old =>
    if old.directory = directory then
      let pending := p.pending.map fun q =>
        if q.number = number then { q with paths := path :: q.paths } else q
      return { p with pending := pending }
    else
      finish [old]
      let others := p.pending.filter (·.number ≠ number)
      return { p with pending := others ++ [⟨number, c, directory, [path]⟩] }
  | none => return { p with pending := p.pending ++ [⟨number, c, directory, [path]⟩] }

/-- Does something with an entry. -/
def act (e : Entry) (p : Progress) : Action → Work (Bool × Progress)
  | .print goal ending => do
    writeTo goal (e.path ++ [ending])
    return (true, p)
  | .format goal pieces => do
    writeTo goal (← formatted e pieces)
    return (true, p)
  | .list goal => do
    writeTo goal (← listed e)
    return (true, p)
  | .delete => do
    if e.path = utf8 "." then return (true, p)
    let change : Change :=
      if e.facts.kind = .directory then .removeDirectory e.path else .unlink e.path
    match ← call (.change change) with
    | .ok () => return (true, p)
    | .error reason =>
      complain (utf8 "cannot delete " ++ Quote.plain e.path ++
        utf8 (": " ++ reason.libraryText))
      return (false, p)
  | .prune => return (true, { p with pruned := true })
  | .quit => do
    finish p.pending
    exit (← get).status
  | .run c asks => do
    if asks then
      let _ ← flush
      emit (utf8 "< " ++ c.words.headD [] ++ utf8 " ... " ++ e.path ++ utf8 " > ? ")
      let (line, _) ← inputLine 0x10000 []
      let first := line.head?
      if first ≠ some 0x79 ∧ first ≠ some 0x59 then return (false, p)
    let path := if c.nearby then e.nearPath else e.path
    let done ← execute (if c.nearby then some e.front else none) (c.words.map (filled path))
    return (done, p)
  | .gather c number => do return (true, ← gathered c number e p)
where
  /-- Reads a line of the input, byte by byte. -/
  inputLine : Nat → Bytes → Work (Bytes × Bool)
    | 0, done => return (done.reverse, false)
    | fuel + 1, done => do
      match ← call (.read 0 1) with
      | .ok (b :: _) =>
        if b = 0x0A then return (done.reverse, true) else inputLine fuel (b :: done)
      | _ => return (done.reverse, false)

/-- Evaluates an expression for an entry. -/
def evaluate (m : Manner) (e : Entry) : Expression → Progress → Work (Bool × Progress)
  | .check c, p => do return (← holds m e c, p)
  | .act a, p => act e p a
  | .not x, p => do
    let (is, p) ← evaluate m e x p
    return (!is, p)
  | .and x y, p => do
    let (is, p) ← evaluate m e x p
    if is then evaluate m e y p else return (false, p)
  | .or x y, p => do
    let (is, p) ← evaluate m e x p
    if is then return (true, p) else evaluate m e y p
  | .both x y, p => do
    let (_, p) ← evaluate m e x p
    evaluate m e y p

/-! ### The search -/

/-- Says that something is wrong with a path. -/
def blame (path : Bytes) (e : Errno) : Work Unit :=
  complain (Quote.plain path ++ utf8 (": " ++ e.libraryText))

/-- Evaluates an expression for a path and all that is below it. The directories above are known
with their places. -/
def visit (m : Manner) (x : Expression) (start : Bytes) :
    Nat → List (Bytes × Path) → Bytes → Progress → Work Progress
  | 0, _, _, p => return p
  | fuel + 1, above, path, p => do
    let depth := above.length
    match ← factsOf (m.follows depth) path with
    | .error e =>
      blame path e
      return p
    | .ok f =>
      let isDirectory : Bool := f.kind = .directory
      match if isDirectory then above.find? (·.2 = f.location) else none with
      | some (outer, _) =>
        complain (utf8 "File system loop detected; " ++ Quote.plain path ++
          utf8 " is part of the same file system loop as " ++ Quote.plain outer ++ utf8 ".")
        return p
      | none =>
        let e : Entry := ⟨start, path, depth, f⟩
        let here : Progress → Work Progress := fun p =>
          if m.least ≤ depth then do return (← evaluate m e x { p with pruned := false }).2
          else return { p with pruned := false }
        let p ← if m.bottomUp then pure { p with pruned := false } else here p
        let p ←
          if isDirectory ∧ depth < m.most ∧ !p.pruned then do
            let listed : Except Errno (List (Name × Kind)) ← call (.children path)
            match listed with
            | .error e =>
              blame path e
              pure p
            | .ok found =>
              found.foldlM (fun p n =>
                visit m x start fuel ((path, f.location) :: above) (below path n.1) p) p
          else pure p
        if m.bottomUp then here p else return p

/-! ### Reading the arguments -/

/-- What has been read of the arguments. -/
structure Reading where
  /-- How the search is done. -/
  manner : Manner
  /-- The symbols, last first. -/
  symbols : List Symbol
  /-- The number of actions that gather entries. -/
  actions : Nat
  /-- Times are counted from the end of the day. -/
  wholeDays : Bool

/-- Adds a primary. -/
def Reading.primary (r : Reading) (e : Expression) : Reading :=
  { r with symbols := Traversal.add r.symbols (.primary e) }

/-- Adds a check. -/
def Reading.check (r : Reading) (c : Check) : Reading :=
  r.primary (.check c)

/-- Adds an action. -/
def Reading.act (r : Reading) (a : Action) : Reading :=
  r.primary (.act a)

/-- Opens a file that something is written to. -/
def goalOf (path : Bytes) : Work Goal := do
  match ← call (.openFile path .writing) with
  | .ok fd => return .file fd
  | .error e => fail 1 (Quote.plain path ++ utf8 (": " ++ e.libraryText))

/-- The result of reading something, or the end of the work with what is wrong. -/
def orFail {α : Type} (r : Except Bytes α) : Work α :=
  match r with
  | .ok a => return a
  | .error e => fail 1 e

/-- The pieces of a format, with what is to be said about it. -/
def piecesOf (text : Bytes) : Work (List Piece) := do
  let (found, warnings) ← orFail (pieces (text.length + 1) text)
  for w in warnings do
    say (utf8 "warning: " ++ w)
  return found

/-- Names and numbers of the owner of all files, and what is said of names that nobody has. -/
def owned (text : Bytes) (unknown : String) : Work Bool := do
  if text = utf8 "root" then return true
  if text ≠ [] ∧ text.all Amount.isDigit then return Amount.count text = 0
  fail 1 (Quote.plain text ++ utf8 unknown)

/-- The checks and options without argument. -/
def plainSymbol? (r : Reading) (name : String) : Option Reading :=
  let m := r.manner
  let yes : Check := .always true
  let symbol := fun (s : Symbol) => some { r with symbols := Traversal.add r.symbols s }
  match name with
  | "!" => symbol (.not (utf8 "!"))
  | "-not" => symbol (.not (utf8 "-not"))
  | "(" => symbol (.opening true)
  | ")" => symbol (.closing true)
  | "," => symbol (.between .both (utf8 ","))
  | "-a" => symbol (.between .and (utf8 "-a"))
  | "-and" => symbol (.between .and (utf8 "-and"))
  | "-o" => symbol (.between .or (utf8 "-o"))
  | "-or" => symbol (.between .or (utf8 "-or"))
  | "-true" => some (r.check yes)
  | "-false" => some (r.check (.always false))
  | "-nouser" => some (r.check (.always false))
  | "-nogroup" => some (r.check (.always false))
  | "-readable" => some (r.check (.permits 0o400))
  | "-writable" => some (r.check (.permits 0o200))
  | "-executable" => some (r.check (.permits 0o100))
  | "-empty" => some (r.check .empty)
  | "-depth" => some ({ r with manner := { m with bottomUp := true } }.check yes)
  | "-d" => some ({ r with manner := { m with bottomUp := true } }.check yes)
  | "-xdev" => some (r.check yes)
  | "-mount" => some (r.check yes)
  | "-noleaf" => some (r.check yes)
  | "-ignore_readdir_race" => some (r.check yes)
  | "-noignore_readdir_race" => some (r.check yes)
  | "-follow" => some ({ r with manner := { m with following := .always } }.check yes)
  | "-daystart" => some { r with wholeDays := true }
  | "-warn" => some (r.check yes)
  | "-nowarn" => some (r.check yes)
  | "-print" => some (r.act (.print .output 0x0A))
  | "-print0" => some (r.act (.print .output 0))
  | "-ls" => some (r.act (.list .output))
  | "-prune" => some (r.act .prune)
  | "-quit" => some (r.act .quit)
  | "-delete" => some ({ r with manner := { m with bottomUp := true } }.act .delete)
  | _ => none

/-- The names of symbols with one argument. -/
def withArgument : List String :=
  ["-name", "-iname", "-path", "-wholename", "-ipath", "-iwholename", "-lname", "-ilname", "-regex",
   "-iregex", "-regextype", "-type", "-xtype", "-maxdepth", "-mindepth", "-size", "-perm", "-links",
   "-uid", "-gid", "-user", "-group", "-inum", "-newer", "-anewer", "-cnewer", "-samefile",
   "-mtime", "-atime", "-ctime", "-mmin", "-amin", "-cmin", "-used", "-fstype", "-printf",
   "-fprint", "-fprint0", "-fls"]

/-- The comparison that an argument stands for. -/
def comparisonOf (name text : Bytes) : Work Comparison :=
  match comparison? text with
  | some c => return c
  | none => fail 1 (utf8 "invalid argument \x60" ++ text ++ utf8 "' to \x60" ++ name ++ utf8 "'")

/-- Adds a symbol with one argument. -/
def Reading.withArgument (r : Reading) (name : String) (text : Bytes) : Work Reading := do
  let word := utf8 name
  let m := r.manner
  let described := fun (a : Aspect) (folds : Bool) => r.check (.described a text folds)
  let limit : Work Nat := do
    if text = [] ∨ !text.all Amount.isDigit then
      fail 1 (utf8 "Expected a positive decimal integer argument to " ++ word ++
        utf8 ", but got " ++ Quote.plain text)
    return Amount.count text
  let known : Work Facts := do
    match ← factsOf (m.following ≠ .never) text with
    | .ok f => return f
    | .error e => fail 1 (Quote.plain text ++ utf8 (": " ++ e.libraryText))
  match name with
  | "-name" => return described .name false
  | "-iname" => return described .name true
  | "-path" => return described .path false
  | "-wholename" => return described .path false
  | "-ipath" => return described .path true
  | "-iwholename" => return described .path true
  | "-lname" => return described .content false
  | "-ilname" => return described .content true
  | "-regex" => return r.check (← orFail (regexCheck m.writing false text))
  | "-iregex" => return r.check (← orFail (regexCheck m.writing true text))
  | "-regextype" =>
    match writings.find? fun w => utf8 w.1 = text with
    | some w => return { r with manner := { m with writing := w.2 } }.check (.always true)
    | none =>
      let known := ", ".intercalate (writings.map fun w => "'" ++ w.1 ++ "'")
      fail 1 (utf8 "Unknown regular expression type " ++ Quote.plain text ++
        utf8 ("; valid types are " ++ known ++ "."))
  | "-type" => return r.check (← orFail (kindCheck word false text))
  | "-xtype" => return r.check (← orFail (kindCheck word true text))
  | "-maxdepth" =>
    return { r with manner := { m with most := ← limit } }.check (.always true)
  | "-mindepth" =>
    return { r with manner := { m with least := ← limit } }.check (.always true)
  | "-size" => return r.check (← orFail (sizeCheck text))
  | "-perm" =>
    let c ← orFail (modeCheck text)
    match c with
    | .mode .any 0 =>
      say (utf8 "warning: you have specified a mode pattern " ++ text ++
        utf8 (" (which is equivalent to /000). The meaning of -perm /000 has now been changed " ++
          "to be consistent with -perm -000; that is, while it used to match no files, it now " ++
          "matches all files."))
    | _ => pure ()
    return r.check c
  | "-links" => return r.check (.names (← comparisonOf word text))
  | "-uid" => return r.check (.always ((← comparisonOf word text).admits 0))
  | "-gid" => return r.check (.always ((← comparisonOf word text).admits 0))
  | "-user" => return r.check (.always (← owned text " is not the name of a known user"))
  | "-group" => return r.check (.always (← owned text " is not the name of an existing group"))
  | "-inum" => return r.check (.number (← comparisonOf word text))
  | "-newer" => return r.check (.time false (.after (← known).modified))
  | "-anewer" => return r.check (.time true (.after (← known).modified))
  | "-cnewer" => return r.check (.time false (.after (← known).modified))
  | "-samefile" => return r.check (.same (← known).location)
  | "-fstype" => return r.check (.always false)
  | "-used" =>
    let _ ← comparisonOf word text
    return r.check (.always false)
  | "-printf" => return r.act (.format .output (← piecesOf text))
  | "-fprint" => return r.act (.print (← goalOf text) 0x0A)
  | "-fprint0" => return r.act (.print (← goalOf text) 0)
  | "-fls" => return r.act (.list (← goalOf text))
  | _ =>
    let days := word.drop (word.length - 3) ≠ utf8 "min"
    let now ← present
    let day : Int := 86400 * Text.Calendar.billion
    let ahead := (← zone).ahead * Text.Calendar.billion
    let origin := if r.wholeDays then ((now + ahead).fdiv day + 1) * day - ahead else now
    match spanOf? days origin text with
    | some s => return r.check (.time (word[1]? = some 0x61) s)
    | none => fail 1 (utf8 "invalid argument `" ++ text ++ utf8 "' to `" ++ word ++ utf8 "'")

/-- Adds the check that an entry is newer than another or than a time, as two letters of a word
say. -/
def Reading.newer (r : Reading) (word : Bytes) (own other : UInt8) (text : Bytes) :
    Work Reading := do
  let invalid : Work Unit := fail 1 (utf8 "invalid predicate `" ++ word ++ utf8 "'")
  if !(utf8 "aBcm").contains own ∨ !(utf8 "aBcmt").contains other then invalid
  if own = 0x42 ∨ other = 0x42 then
    say (utf8 "This system does not provide a way to find the birth time of a file.")
    invalid
  let time ←
    if other = 0x74 then
      match Text.Calendar.time? (← zone) (← present) text with
      | some t => pure t
      | none =>
        fail 1 (utf8 "I cannot figure out how to interpret " ++ Quote.plain text ++
          utf8 " as a date or time")
    else
      match ← factsOf (r.manner.following ≠ .never) text with
      | .ok f => pure (if other = 0x61 then f.accessed else f.modified)
      | .error e => fail 1 (Quote.plain text ++ utf8 (": " ++ e.libraryText))
  return r.check (.time (own = 0x61) (.after time))

/-- The two letters of a word that compares times. -/
def newerLetters? (word : Bytes) : Option (UInt8 × UInt8) :=
  let front := utf8 "-newer"
  match word.drop front.length with
  | [own, other] => if front.isPrefixOf word then some (own, other) else none
  | _ => none

/-- The names of actions that run a command: whether in the directory of the entry, whether it is
asked first. -/
def runners : List (String × Bool × Bool) :=
  [("-exec", false, false), ("-execdir", true, false), ("-ok", false, true), ("-okdir", true, true)]

/-- Adds an action that runs a command; the arguments after it are left. -/
def Reading.command (r : Reading) (name : String) (nearby asks : Bool) (args : List Bytes) :
    Work (Reading × List Bytes) := do
  let (words, gathers, left) := commandWords false args
  let gathers := gathers && !asks
  match words, left with
  | _, [] => fail 1 (utf8 s!"missing argument to \x60{name}'")
  | [], end_ :: _ => fail 1 (utf8 "invalid argument \x60" ++ end_ ++ utf8 s!"' to \x60{name}'")
  | _, _ :: rest =>
    let c : Command := ⟨words, nearby⟩
    if gathers then
      let marked := words.filter commandWords.hasBraces
      let variant := if nearby then "dir" else ""
      if 1 < marked.length then
        fail 1
          (utf8 ("Only one instance of \x7b\x7d is supported with -exec" ++ variant ++ " ... +"))
      else if (marked.headD []).length ≠ 2 then
        fail 1 (utf8 ("In '-exec" ++ variant ++ " ... \x7b\x7d +' the '\x7b\x7d' must appear by " ++
          "itself, but you specified '") ++ marked.headD [] ++ utf8 "'")
      else return ({ r with actions := r.actions + 1 }.act (.gather c r.actions), rest)
    else return (r.act (.run c asks), rest)

/-- Whether an argument belongs to the expression; two marks do only within it. -/
def belongs (within : Bool) (arg : Bytes) : Bool :=
  match arg with
  | 0x2D :: _ :: _ => true
  | [0x28] => true
  | [0x21] => true
  | [0x29] => within
  | [0x2C] => within
  | _ => false

/-- Reads the expression. -/
def readAll : Nat → Option Bytes → Reading → List Bytes → Work Reading
  | 0, _, r, _ => return r
  | fuel + 1, last, r, args => do
    match args with
    | [] => return r
    | word :: rest =>
      if !belongs true word then
        say (utf8 "paths must precede expression: \x60" ++ word ++ utf8 "'")
        let known : Except Errno Facts ← call (.facts word true)
        match last, known with
        | some before, .ok _ =>
          say (utf8 "possible unquoted pattern after predicate \x60" ++ before ++ utf8 "'?")
        | _, _ => pure ()
        exit 1
      let missing : Work (Reading × List Bytes) :=
        fail 1 (utf8 "missing argument to \x60" ++ word ++ utf8 "'")
      let isWord := fun (s : String) => decide (utf8 s = word)
      let (r, rest) ←
        match runners.find? fun s => isWord s.1, withArgument.find? isWord with
        | some (name, nearby, asks), _ => r.command name nearby asks rest
        | none, some name =>
          match rest with
          | [] => missing
          | text :: rest => do pure (← r.withArgument name text, rest)
        | none, none =>
          if let some (own, other) := newerLetters? word then
            match rest with
            | [] => fail 1 (utf8 "The '" ++ word ++ utf8 "' test needs an argument")
            | text :: rest => do pure (← r.newer word own other text, rest)
          else if word = utf8 "-fprintf" then
            match rest with
            | path :: text :: rest => do
              let goal ← goalOf path
              pure (r.act (.format goal (← piecesOf text)), rest)
            | _ => missing
          else
            match String.fromUTF8? ⟨word.toArray⟩ |>.bind (plainSymbol? r) with
            | some r => pure (r, rest)
            | none => fail 1 (utf8 "unknown predicate \x60" ++ word ++ utf8 "'")
      readAll fuel (some word) r rest

/-- Reads the options in front of the paths. -/
def readOptions : Nat → Following → List Bytes → Work (Following × List Bytes)
  | 0, f, args => return (f, args)
  | fuel + 1, f, args => do
    match args with
    | [] => return (f, [])
    | word :: rest =>
      if word = utf8 "-H" then readOptions fuel .starts rest
      else if word = utf8 "-L" then readOptions fuel .always rest
      else if word = utf8 "-P" then readOptions fuel .never rest
      else if word = utf8 "--" then return (f, rest)
      else if word = utf8 "-D" then
        match rest with
        | [] => fail 1 (utf8 "Missing argument after the -D option.")
        | _ :: rest => readOptions fuel f rest
      else if (utf8 "-O").isPrefixOf word then
        let digits := word.drop 2
        if digits = [] ∨ !digits.all Amount.isDigit then
          fail 1 (utf8 "The -O option must be immediately followed by a decimal integer")
        readOptions fuel f rest
      else return (f, args)

/-- The greatest depth. -/
def greatestDepth : Nat := 4096

end Traversal

open Traversal

/-- Searches for files. -/
def findFiles (args : List Bytes) : Work Unit := do
  let (following, args) ← readOptions args.length .never args
  let starts := args.takeWhile fun a => !belongs false a
  let words := args.drop starts.length
  if words.any fun w => w = utf8 "--help" ∨ w = utf8 "-help" ∨ w = utf8 "--version" ∨
      w = utf8 "-version" then exit 0
  let r ← readAll (words.length + 1) none
    ⟨⟨following, false, 0, greatestDepth, .usual⟩, [], 0, false⟩ words
  let x ← orFail (ofSymbols r.symbols)
  let starts := if starts = [] then [utf8 "."] else starts
  let p ← starts.foldlM (fun p s => visit r.manner x s greatestDepth [] s p) ⟨false, []⟩
  finish p.pending
  match ← flush with
  | none => return ()
  | some e =>
    say (utf8 ("'standard output': " ++ e.libraryText))
    exit 1

end CommandShell.Tool
