import CommandShell.Script.Pattern
import CommandShell.Text.Collation
import CommandShell.Tool.Listing.Columns
import CommandShell.Tool.Listing.Entry

/-!
# Listing directories

The names in directories, and those of files that are given, are written in order. What is in
directories comes after the files, with the names of the directories in front if there are several.
-/

namespace CommandShell.Tool

open Work

namespace Listing

/-- How names are written. -/
inductive Layout where
  /-- Each on a line. -/
  | lines
  /-- Each on a line, with what is known of it. -/
  | long
  /-- With commas between them. -/
  | commas
  /-- In columns, from top to bottom. -/
  | columns
  /-- In columns, from left to right. -/
  | rows
deriving DecidableEq

/-- What comes first. -/
inductive Order where
  /-- What is found first. -/
  | found
  /-- The first name. -/
  | name
  /-- The latest time. -/
  | time
  /-- The greatest size. -/
  | size
  /-- The first ending of a name. -/
  | ending
  /-- The first name, as that of a version. -/
  | version
  /-- The shortest name. -/
  | width
deriving DecidableEq

/-- What of a listing is asked for. -/
structure Manner where
  /-- Names with a dot in front are listed. -/
  hidden : Bool
  /-- So are the directory itself and the one above it. -/
  dots : Bool
  /-- Names that are left out. -/
  leftOut : List Bytes
  /-- Directories are listed like files. -/
  asFiles : Bool
  /-- Directories in directories are listed as well. -/
  recursive : Bool
  /-- What comes first. -/
  order : Order
  /-- The order is turned around. -/
  reversed : Bool
  /-- Directories come first. -/
  directoriesFirst : Bool
  /-- Which entries are marked. -/
  marking : Marking
  /-- How names are quoted. -/
  quoting : Quoting
  /-- What cannot be shown of a name is replaced by question marks. -/
  masked : Bool
  /-- What a link leads to is listed. -/
  through : Bool
  /-- How the names are written. -/
  layout : Layout
  /-- The lines with several names. -/
  page : Page
  /-- What ends a line. -/
  ending : UInt8
  /-- The numbers of entries are written. -/
  numbers : Bool
  /-- The room of entries is written. -/
  room : Option Scale
  /-- How the room of all entries is written. -/
  total : Scale
  /-- Which time is meant. -/
  time : Time
  /-- What a long listing tells. -/
  telling : Telling

/-- Whether more than the kinds of entries has to be known. -/
def Manner.needsFacts (m : Manner) : Bool :=
  m.layout = .long || m.room.isSome || m.order = .time || m.order = .size

/-- Whether the kinds of entries have to be known. -/
def Manner.needsKinds (m : Manner) : Bool :=
  m.recursive || m.directoriesFirst || m.marking ≠ .nothing

/-! ### Order -/

/-- The ending of a name, from its last dot on. -/
def endingOf (name : Bytes) : Bytes :=
  if name.contains 0x2E then 0x2E :: (name.reverse.takeWhile (· ≠ 0x2E)).reverse else []

/-- How two entries are ordered by what an order goes by. -/
def Order.compare (o : Order) (t : Time) (a b : Entry) : Ordering :=
  let size := fun (e : Entry) => (e.facts.map (·.size)).getD 0
  let time := fun (e : Entry) => (e.facts.map t.of).getD 0
  match o with
  | .found => .eq
  | .name => .eq
  | .time => Ord.compare (time b) (time a)
  | .size => Ord.compare (size b) (size a)
  | .ending => compareOfLessAndEq (endingOf a.name) (endingOf b.name)
  | .version => Text.Collation.version a.name b.name
  | .width => Ord.compare a.name.length b.name.length

/-- Whether an entry is a directory, or leads to one. -/
def Entry.isDirectory (e : Entry) : Bool :=
  e.kind = .directory || (e.goal.bind (·.2)).any (·.kind = .directory)

/-- Whether an entry comes before another, or may. -/
def before (m : Manner) (a b : Entry) : Bool :=
  if m.directoriesFirst ∧ a.isDirectory ≠ b.isDirectory then a.isDirectory
  else
    let order := (m.order.compare m.time a b).then (compareOfLessAndEq a.name b.name)
    if m.reversed then order ≠ .lt else order ≠ .gt

/-- Entries in order. -/
def inOrder (m : Manner) (entries : List Entry) : List Entry :=
  if m.order = .found then entries else entries.mergeSort (before m)

/-! ### Writing -/

/-- A name as it is written. -/
def quote (m : Manner) (name : Bytes) : Bytes :=
  let written := m.quoting.write name
  if m.masked then written.map fun b => if Quote.isShown b then b else 0x3F else written

/-- What is written in front of the names of entries. -/
def fronts (m : Manner) (entries : List Entry) : List Bytes :=
  let rows := aligned <| entries.map fun e =>
    let number : List Field :=
      if m.numbers then
        [⟨(e.facts.map fun f => Scale.decimal f.number).getD (utf8 "?"), false⟩] else []
    let room : List Field := match m.room with
      | some scale =>
        [⟨(e.facts.map fun f => scale.shown (roomOf f)).getD (utf8 "?"), false⟩]
      | none => []
    number ++ room ++ (if m.layout = .long then longFields m.telling e else [])
  if m.layout ≠ .long then rows
  else (rows.zip entries).map fun (row, e) => row ++ momentText m.telling m.time e ++ [0x20]

/-- Entries as they are written: what is in front, the name, and a mark. In a long listing it is
told where a link leads, and the mark is that of what is there. -/
def shown (m : Manner) (entries : List Entry) : List Bytes :=
  let quoted := entries.map fun e => quote m e.name
  let anyMarked := (quoted.zip entries).any fun (q, e) => q ≠ e.name
  let aligns := m.quoting.aligns ∧ anyMarked ∧ m.layout ≠ .lines ∧ m.layout ≠ .commas
  let fronts := fronts m entries
  (fronts.zip (quoted.zip entries)).map fun (front, q, e) =>
    let blank : Bytes := if aligns ∧ q = e.name then [0x20] else []
    let front := if m.layout = .commas then front.dropWhile (· = 0x20) else front
    let back : Bytes := match e.goal with
      | some (goal, facts) =>
        if m.layout = .long then
          let mark := match facts with
            | some f => if m.marking = .directories then [] else m.marking.mark f.kind (some f)
            | none => []
          utf8 " -> " ++ quote m goal ++ mark
        else m.marking.mark e.kind e.facts
      | none => m.marking.mark e.kind e.facts
    front ++ blank ++ q ++ back

/-- Writes entries. They stand below each other as if others were among them. -/
def write (m : Manner) (entries others : List Entry) : Work Unit := do
  let names := (shown m (entries ++ others)).take entries.length
  if names = [] then return ()
  let line := fun (text : Bytes) => put (text ++ [m.ending])
  match m.layout with
  | .lines => names.forM line
  | .long => names.forM line
  | .commas => line (inARow [0x2C] m.page.width names 0)
  | .columns => (inColumns m.page names true).forM line
  | .rows => (inColumns m.page names false).forM line

/-! ### Finding -/

/-- An entry of which the facts are known, with what is known besides. -/
def Entry.complete (m : Manner) (e : Entry) (path : Bytes) : Work Entry := do
  let looks := m.layout = .long ∨ m.directoriesFirst ∨ m.marking = .all
  let goal ← if e.kind = .link ∧ looks then
      match ← call (.linkContent path) with
      | .ok text =>
        let facts : Except Errno Facts ← call (.facts path true)
        pure (some (text, facts.toOption))
      | .error _ => pure none
    else pure none
  let names ← match e.facts with
    | some f => if m.layout = .long then Description.nameCount path f else pure 1
    | none => pure 1
  return { e with names := names, goal := goal }

/-- The entry of a directory. -/
def entryIn (m : Manner) (directory name : Bytes) (kind : Kind) : Work Entry := do
  let path := below directory name
  let direct : Except Errno Facts ← call (.facts path false)
  let goal : Except Errno Facts ← if m.through then call (.facts path true) else pure direct
  match goal, direct with
  | .ok f, _ => Entry.complete m { name, kind := f.kind, facts := some f } path
  | .error _, .ok f =>
    let isSought : Bool := m.needsFacts || (kind = .link && (m.numbers || m.needsKinds))
    if m.through ∧ isSought then unknown path .noEntry
    else Entry.complete m { name, kind := f.kind, facts := some f } path
  | .error _, .error e =>
    if m.needsFacts then unknown path e
    else return { name, kind, facts := none }
where
  /-- Nothing is known of the entry at a path. -/
  unknown (path : Bytes) (e : Errno) : Work Entry := do
    complainOf (utf8 "cannot access " ++ Quote.shell path) e
    return { name, kind, facts := none }

/-- The names in a directory; there are none, and no dots either, if it has gone away under the
process. -/
def childrenOf (m : Manner) (path : Bytes) : Work (Except Errno (List (Bytes × Kind))) := do
  let dots : List (Bytes × Kind) :=
    if m.dots then [([0x2E], .directory), ([0x2E, 0x2E], .directory)] else []
  match ← call (.children path) with
  | .ok children => return .ok (dots ++ children)
  | .error e =>
    if e ≠ .noEntry then return .error e
    else
      match ← call (.facts path true) with
      | .ok _ => return .ok []
      | .error _ => return .error e

/-- Whether a name in a directory is listed. -/
def lists (m : Manner) (name : Bytes) : Bool :=
  let isLeftOut := fun (pattern : Bytes) =>
    (name.head? ≠ some 0x2E || pattern.head? = some 0x2E) &&
      Script.Pattern.describes (pattern.map fun b => (b, false)) name
  (m.hidden || name.head? ≠ some 0x2E) && !m.leftOut.any isLeftOut

/-- Writes the entries of directories that wait, one after the other. -/
def directories (m : Manner) : Nat → Bool → Bool → List Bytes → Work Unit
  | 0, _, _, _ => return ()
  | fuel + 1, titled, first, waiting => do
    match waiting with
    | [] => return ()
    | path :: rest =>
      match ← childrenOf m path with
      | .error e =>
        complainOf (utf8 "cannot open directory " ++ Quote.shell path) e
        fault 2
        directories m fuel true first rest
      | .ok children =>
        if titled ∨ m.recursive then
          put ((if first then [] else [0x0A]) ++ quote m path ++ utf8 ":\n")
        let wanted := children.filter fun c => lists m c.1
        let entries ← wanted.mapM fun c => entryIn m path c.1 c.2
        let entries := inOrder m entries
        if m.layout = .long ∨ m.room.isSome then
          let room := sumOf (entries.map fun e => (e.facts.map roomOf).getD 0)
          put (utf8 "total " ++ m.total.shown room ++ [m.ending])
        write m entries []
        let inner := if m.recursive then
            (entries.filter fun e => e.kind = .directory ∧ e.name ≠ [0x2E] ∧
              e.name ≠ [0x2E, 0x2E]).map fun e => below path e.name
          else []
        directories m fuel true (first && !(titled || m.recursive)) (inner ++ rest)

/-! ### Options -/

/-- The options of listings. -/
def switches : List Switch :=
  [.flag "a" "all", .flag "b" "escape", .flag "d" "directory", .flag "D" "dired",
   .flag "" "full-time", .flag "" "group-directories-first", .flag "h" "human-readable",
   .flag "i" "inode", .flag "k" "kibibytes", .flag "n" "numeric-uid-gid", .flag "G" "no-group",
   .flag "q" "hide-control-chars", .flag "r" "reverse", .flag "s" "size", .valued "w" "width",
   .flag "A" "almost-all", .flag "B" "ignore-backups", .flag "F" "",
   ⟨"", "classify", .optional⟩, .flag "" "file-type", .flag "" "si",
   .flag "H" "dereference-command-line", .flag "" "dereference-command-line-symlink-to-dir",
   .valued "" "hide", .valued "I" "ignore", .valued "" "indicator-style",
   .flag "L" "dereference", .flag "N" "literal", .flag "Q" "quote-name",
   .valued "" "quoting-style", .flag "R" "recursive", .valued "" "format",
   .flag "" "show-control-chars", .valued "" "sort", .valued "T" "tabsize", .valued "" "time",
   .valued "" "time-style", .flag "" "zero", ⟨"", "color", .optional⟩,
   ⟨"", "hyperlink", .optional⟩, .valued "" "block-size", .flag "Z" "context",
   .flag "" "author"] ++ Switch.letters "cfglmoptuvxCSUX1"

/-- Words for when something is done. -/
def whenWords : List (List String) :=
  [["always", "yes", "force"], ["never", "no", "none"], ["auto", "tty", "if-tty"]]

/-- The layout that options ask for, one after another. -/
def layoutOf (f : Options.Found) : Work Layout :=
  f.given.foldlM (fun before g => do
    match g.key with
    | "l" | "g" | "o" | "n" | "full-time" => return .long
    | "C" => return .columns
    | "x" => return .rows
    | "m" => return .commas
    | "f" => return if before = .long then .lines else before
    | "1" => return if before = .long then .long else .lines
    | "zero" => return if before = .long then .long else .lines
    | "format" =>
      match ← Options.choice "--format" [["verbose", "long"], ["commas"],
          ["horizontal", "across"], ["vertical"], ["single-column"]] (g.value.getD []) with
      | "verbose" => return .long
      | "commas" => return .commas
      | "horizontal" => return .rows
      | "vertical" => return .columns
      | _ => return .lines
    | _ => return before) .lines

/-- The order that options ask for, one after another, if any does. -/
def orderOf (f : Options.Found) : Work (Option Order) :=
  f.given.foldlM (fun before g => do
    match g.key with
    | "f" | "U" => return some .found
    | "t" => return some .time
    | "S" => return some .size
    | "X" => return some .ending
    | "v" => return some .version
    | "sort" =>
      match ← Options.choice "--sort" [["none"], ["time"], ["size"], ["extension"], ["version"],
          ["width"]] (g.value.getD []) with
      | "none" => return some .found
      | "time" => return some .time
      | "size" => return some .size
      | "extension" => return some .ending
      | "version" => return some .version
      | _ => return some .width
    | _ => return before) none

/-- The time that options ask for, one after another, if any does. -/
def timeOf (f : Options.Found) : Work (Option Time) :=
  f.given.foldlM (fun before g => do
    match g.key with
    | "c" => return some .changed
    | "u" => return some .accessed
    | "time" =>
      match ← Options.choice "--time" [["atime", "access", "use"], ["ctime", "status"],
          ["mtime", "modification"], ["birth", "creation"]] (g.value.getD []) with
      | "atime" => return some .accessed
      | "ctime" => return some .changed
      | "mtime" => return some .modified
      | _ => return some .born
    | _ => return before) none

/-- Which entries are marked, as options ask for one after another. -/
def markingOf (f : Options.Found) : Work Marking :=
  f.given.foldlM (fun before g => do
    match g.key with
    | "F" => return .all
    | "p" => return .directories
    | "file-type" => return .kinds
    | "classify" =>
      match g.value with
      | none => return .all
      | some word =>
        return if (← Options.choice "--classify" whenWords word) = "always" then .all else before
    | "indicator-style" =>
      match ← Options.choice "--indicator-style" [["none"], ["slash"], ["file-type"],
          ["classify"]] (g.value.getD []) with
      | "none" => return .nothing
      | "slash" => return .directories
      | "file-type" => return .kinds
      | _ => return .all
    | "color" | "hyperlink" =>
      match g.value with
      | some word =>
        let _ ← Options.choice ("--" ++ g.key) whenWords word
      | none => pure ()
      return before
    | _ => return before) .nothing

/-- How names are quoted, as the environment and options ask for one after another. -/
def quotingOf (f : Options.Found) : Work Quoting := do
  let start := ((← setting? "QUOTING_STYLE").bind fun word =>
    (Quoting.words.find? fun w => utf8 w.1 = word).map (·.2)).getD .literal
  f.given.foldlM (fun before g => do
    match g.key with
    | "N" | "zero" => return .literal
    | "b" => return .escape
    | "Q" => return .double true
    | "quoting-style" =>
      let word ← Options.choice "--quoting-style" (Quoting.words.map fun w => [w.1])
        (g.value.getD [])
      return (Quoting.words.lookup word).getD before
    | _ => return before) start

/-- How sizes, the room of entries and that of all are written, as options ask for one after
another. -/
def scalesOf (f : Options.Found) : Work (Scale × Scale) :=
  f.given.foldlM (fun before g => do
    match g.key with
    | "h" => return (.short 1024, .short 1024)
    | "si" => return (.short 1000, .short 1000)
    | "block-size" =>
      match Scale.ofText? (g.value.getD []) with
      | some s => return (s, s)
      | none =>
        fail 2 (utf8 "invalid --block-size argument " ++ Quote.plain (g.value.getD []))
    | _ => return before) (.units 1 [], .units 1024 [])

/-- How times are written, as the environment and options ask for. -/
def styleOf (f : Options.Found) : Work TimeStyle := do
  let wanted := f.given.reverse.find? fun g => g.key = "time-style" ∨ g.key = "full-time"
  let fallback := (← setting? "TIME_STYLE").getD (utf8 "locale")
  let text := match wanted with
    | some g => g.value.getD (utf8 "full-iso")
    | none => fallback
  let posix := utf8 "posix-"
  match text with
  | 0x2B :: format =>
    let old := format.takeWhile (· ≠ 0x0A)
    if old.length = format.length then return ⟨old, old⟩
    return ⟨old, format.drop (old.length + 1)⟩
  | _ =>
    if posix.isPrefixOf text then return .usual
    else
      match TimeStyle.named.filter fun s => utf8 s.1 = text, text with
      | [s], _ => return s.2
      | _, _ =>
        match TimeStyle.named.filter fun s => text.isPrefixOf (utf8 s.1) with
        | [s] => return s.2
        | found =>
          let what := if found = [] then "invalid" else "ambiguous"
          say (utf8 (what ++ " argument ") ++ Quote.shell text ++ utf8 " for 'time style'")
          emit (utf8 ("Valid arguments are:\n  - [posix-]full-iso\n  - [posix-]long-iso\n" ++
            "  - [posix-]iso\n  - [posix-]locale\n" ++
            "  - +FORMAT (e.g., +%H:%M) for a 'date'-style format\n"))
          refer 2

/-- A width or the distance of tabs that options ask for last, where nothing wrong may be asked
for. -/
def numberOf (f : Options.Found) (key complaint : String) (usual : Nat) : Work Nat := do
  let numbers ← (f.given.filter (·.key = key)).mapM fun g => do
    match Amount.ofText "" (g.value.getD []) with
    | .number n => return n
    | .excessive => return 0
    | .invalid => fail 2 (utf8 (complaint ++ ": ") ++ Quote.plain (g.value.getD []))
  return numbers.getLast?.getD usual

/-- The width of a line with several names, if none is asked for. -/
def usualWidth (l : Layout) : Work Nat := do
  let text := (← setting? "COLUMNS").getD []
  if text = [] ∨ l = .long ∨ l = .lines then return 80
  match Amount.ofText "" text with
  | .number n => return n
  | _ =>
    say (utf8 "ignoring invalid width in environment variable COLUMNS: " ++ Quote.plain text)
    return 80

/-- What of a listing is asked for. -/
def mannerOf (f : Options.Found) : Work Manner := do
  let layout ← layoutOf f
  let order ← orderOf f
  let time ← timeOf f
  let marking ← markingOf f
  let quoting ← quotingOf f
  let (sizes, rooms) ← scalesOf f
  let width ← numberOf f "w" "invalid line width" (← usualWidth layout)
  let tab ← numberOf f "T" "invalid tab size" 8
  let style ← if layout = .long then styleOf f else pure .usual
  let everything := f.last? ["a", "A", "f"]
  let dots : Bool := everything = some "a" || everything = some "f"
  let patterns : String → List Bytes := fun key =>
    (f.given.filter (·.key = key)).map fun g => g.value.getD []
  let hides := if everything.isSome then [] else patterns "hide"
  let backups := if f.has "B" then [utf8 "*~", utf8 ".*~"] else []
  let showsRoom := f.last? ["s", "f"] = some "s"
  let telling : Telling :=
    { owner := !f.has "g", group := !(f.has "o" || f.has "G"), author := f.has "author"
      numeric := f.has "n", scale := sizes, style, zone := ← zone, now := ← present }
  return { hidden := everything.isSome, dots, leftOut := patterns "I" ++ hides ++ backups
           asFiles := f.has "d", recursive := f.has "R"
           order := order.getD (if time.isSome ∧ layout ≠ .long then .time else .name)
           reversed := f.has "r", directoriesFirst := f.has "group-directories-first"
           marking, quoting
           masked := f.last? ["q", "show-control-chars", "zero"] = some "q"
           through := f.last? ["H", "L", "dereference-command-line-symlink-to-dir"] = some "L"
           layout, page := ⟨width, tab⟩, ending := if f.has "zero" then 0 else 0x0A
           numbers := f.has "i", room := if showsRoom then some rooms else none, total := rooms
           time := time.getD .modified, telling }

end Listing

open Listing in
/-- Lists files and directories. -/
def ls (args : List Bytes) : Work Unit := do
  let f ← Options.read Listing.switches true 2 args
  let m ← mannerOf f
  if f.operands = [] then
    if m.asFiles then write m [← entryIn m [0x2E] [0x2E] .directory] []
    else directories m 0x100000000 false true [[0x2E]]
  else
    let linked := f.last? ["H", "L", "dereference-command-line-symlink-to-dir"]
    let always := linked = some "L" ∨ linked = some "H"
    let plain := m.asFiles ∨ m.marking = .all ∨ m.layout = .long
    let follows := linked.isSome ∨ !plain
    let found ← f.operands.mapM fun path => do
      let direct ← call (.facts path false)
      let facts : Except Errno Facts ← match direct with
        | .ok k =>
          if k.kind = .link ∧ follows then do
            match ← call (.facts path true) with
            | .ok t => pure (.ok (if t.kind = .directory ∨ always then t else k))
            | .error e => pure (if always then .error e else .ok k)
          else pure (.ok k)
        | .error e => pure (.error e)
      match facts with
      | .ok k => return [← Entry.complete m { name := path, kind := k.kind, facts := some k } path]
      | .error e =>
        complainOf (utf8 "cannot access " ++ Quote.shell path) e
        fault 2
        return []
    let all := inOrder m found.flatten
    let isInside := fun (e : Entry) => e.kind = .directory && !m.asFiles
    let files := all.filter (!isInside ·)
    let shownInside := all.filter isInside
    let inside := shownInside.map (·.name)
    write m files shownInside
    if files ≠ [] ∧ inside ≠ [] then put [0x0A]
    let titled := files ≠ [] || decide (1 < f.operands.length)
    directories m 0x100000 titled true inside

/-- Lists files and directories in columns. -/
def dir (args : List Bytes) : Work Unit :=
  ls (utf8 "-C" :: utf8 "-b" :: args)

/-- Lists files and directories with what is known of them. -/
def vdir (args : List Bytes) : Work Unit :=
  ls (utf8 "-l" :: utf8 "-b" :: args)

end CommandShell.Tool
