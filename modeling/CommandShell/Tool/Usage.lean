import CommandShell.Script.Pattern
import CommandShell.Tool.Clock
import CommandShell.Tool.Input
import CommandShell.Tool.Scale

/-!
# How much room files take

The room that files take is added up for each directory. A file that has several names is counted
once. Either the room on the device is meant, or the number of bytes in the files, or how many files
there are.
-/

namespace CommandShell.Tool

open Text Work

namespace Usage

/-- What is added up. -/
inductive Measure where
  /-- The room on the device. -/
  | room
  /-- The number of bytes. -/
  | bytes
  /-- The number of files. -/
  | number
deriving DecidableEq

/-- Which entries are written, by what was added up. -/
inductive Threshold where
  /-- Those with as much. -/
  | atLeast (n : Nat)
  /-- Those with no more. -/
  | atMost (n : Nat)

/-- How the room is added up and written. -/
structure Manner where
  /-- What is added up. -/
  measure : Measure
  /-- How it is written. -/
  scale : Scale
  /-- All files are written, and not only directories. -/
  everything : Bool
  /-- How far below an operand entries are written. -/
  depth : Option Nat
  /-- What is in the directories of a directory is not added to it. -/
  separate : Bool
  /-- A file is counted once for each name. -/
  countsNames : Bool
  /-- Every file is counted once, also if it comes again with another operand. -/
  countsOnce : Bool
  /-- What links among the operands lead to is counted. -/
  throughOperands : Bool
  /-- What other links lead to is counted. -/
  throughOthers : Bool
  /-- Patterns for what is not counted. -/
  leftOut : List Bytes
  /-- Which entries are written. -/
  threshold : Threshold
  /-- How the time is written, if it is, and whether it is the one of looking at a file. -/
  time : Option (Bytes × Bool)
  /-- The zone of times. -/
  zone : Calendar.Zone
  /-- What is behind each line. -/
  ending : UInt8

/-- What was added up. -/
structure Sum where
  /-- How much. -/
  amount : Nat
  /-- The latest time. -/
  time : Option Int

/-- Nothing. -/
def Sum.none : Sum := ⟨0, Option.none⟩

/-- Two sums together. -/
def Sum.add (a b : Sum) : Sum :=
  ⟨a.amount + b.amount, match a.time, b.time with
    | some s, some t => some (max s t)
    | some s, _ => some s
    | _, t => t⟩

/-- The sum for one file. -/
def Manner.one (m : Manner) (f : Facts) : Sum :=
  let amount := match m.measure with
    | .number => 1
    | .bytes => f.size
    | .room =>
      match f.kind with
      | .file => (f.size + 4095) / 4096 * 4096
      | .directory => 4096
      | _ => 0
  ⟨amount, some (if m.time.any (·.2) then f.accessed else f.modified)⟩

/-- Whether a path is left out: a pattern describes it, or what follows one of its slashes. -/
def Manner.leavesOut (m : Manner) (path : Bytes) : Bool :=
  let describes := fun (name pattern : Bytes) =>
    Script.Pattern.describes (pattern.map fun b => (b, false)) name
  m.leftOut.any fun pattern => (tails path).any (describes · pattern)
where
  /-- A text, and what follows its slashes. -/
  tails (path : Bytes) : List Bytes :=
    path :: behind path
  /-- What follows the slashes of a text. -/
  behind : Bytes → List Bytes
    | [] => []
    | b :: rest =>
      if b = slash ∧ rest ≠ [] ∧ rest.head? ≠ some slash then rest :: behind rest
      else behind rest

/-- Writes a sum with the name that it belongs to. -/
def Manner.tell (m : Manner) (s : Sum) (name : Bytes) : Work Unit := do
  let time := match m.time, s.time with
    | some (format, _), some t => 0x09 :: Calendar.shown m.zone format t
    | _, _ => []
  put (m.scale.shown s.amount ++ time ++ 0x09 :: name ++ [m.ending])
  let _ ← flush

/-- Writes a sum if it is to be written. -/
def Manner.tellIf (m : Manner) (level : Nat) (directory : Bool) (s : Sum) (name : Bytes) :
    Work Unit := do
  let wanted : Bool := match m.threshold with
    | .atLeast n => n ≤ s.amount
    | .atMost n => s.amount ≤ n
  let shown := level = 0 || ((directory || m.everything) && m.depth.all (level ≤ ·))
  if shown && wanted then
    m.tell s name

/-- Adds up what is at a path, unless it was counted before. The files that are known are the second
state. -/
def Manner.addUp (m : Manner) : Nat → Nat → Bytes → List Path → Work (Sum × Bool × List Path)
  | 0, _, _, seen => return (.none, false, seen)
  | fuel + 1, level, path, seen => do
    if m.leavesOut path then return (.none, false, seen)
    let through := if level = 0 then m.throughOperands else m.throughOthers
    match ← call (.facts path through) with
    | .error e =>
      let linked : Except Errno Facts ← call (.facts path false)
      if through ∧ linked.isOk then complain (utf8 "cannot access " ++ Quote.shell path)
      else complainAbout "cannot access" path e
      return (.none, false, seen)
    | .ok f =>
      let directory : Bool := f.kind = .directory
      let watched := !m.countsNames && (m.countsOnce || (!directory && 1 < f.names))
      if watched ∧ seen.contains f.location then return (.none, false, seen)
      let seen := if watched then f.location :: seen else seen
      let own := m.one f
      if !directory then
        m.tellIf level false own path
        return (own, false, seen)
      match ← call (.children path) with
      | .error e =>
        complainAbout "cannot read directory" path e
        m.tellIf level true own path
        return (own, true, seen)
      | .ok children =>
        let mut seen := seen
        let mut files := Sum.none
        let mut directories := Sum.none
        for c in children do
          let (sum, inner, known) ← m.addUp fuel (level + 1) (below path c.1) seen
          seen := known
          if inner then directories := directories.add sum else files := files.add sum
        let here := own.add files
        let all := here.add directories
        m.tellIf level true (if m.separate then here else all) path
        return (all, true, seen)

/-- The threshold that a text tells. -/
def thresholdOf (option : String) (text : Bytes) : Work Threshold := do
  let negative := text.head? = some 0x2D
  let digits := if negative then text.tail else text
  match Amount.ofText "kKmMGTPEZY0" digits with
  | .number n =>
    if negative ∧ n = 0 then fail 1 (utf8 "invalid --threshold argument '-0'")
    return if negative then .atMost n else .atLeast n
  | .excessive =>
    fail 1 (utf8 (option ++ " argument ") ++ Quote.plain text ++ utf8 " too large")
  | .invalid =>
    let what := if digits.head?.any Amount.isDigit then "invalid suffix in " else "invalid "
    fail 1 (utf8 (what ++ option ++ " argument ") ++ Quote.plain text)

/-- How sizes are written, as the environment and options ask for. -/
def scaleOf (f : Options.Found) : Work Scale := do
  let mut start : Scale := .units (if (← setting? "POSIXLY_CORRECT").isSome then 512 else 1024) []
  let settings ← ["DU_BLOCK_SIZE", "BLOCK_SIZE", "BLOCKSIZE"].mapM fun name => setting? name
  match settings.findSome? id with
  | some text => start := (Scale.ofText? text).getD start
  | none => pure ()
  f.given.foldlM (fun before g => do
    match g.key with
    | "h" => return .short 1024
    | "si" => return .short 1000
    | "b" => return .units 1 []
    | "k" => return .units 1024 []
    | "m" => return .units 1048576 []
    | "B" =>
      match Scale.ofText? (g.value.getD []) with
      | some s => return s
      | none => fail 1 (utf8 "invalid -B argument " ++ Quote.plain (g.value.getD []))
    | _ => return before) start

/-- How times are written, if they are. -/
def timeOf (f : Options.Found) : Work (Option (Bytes × Bool)) := do
  if !f.has "time" then return none
  let looked ← match f.value? "time" with
    | some word =>
      let found ← Options.choice "--time" [["atime", "access", "use"], ["ctime", "status"]] word
      pure (found == "atime")
    | none => pure false
  let usual := "long-iso"
  let setting := ((← setting? "TIME_STYLE").getD (utf8 usual))
  let setting := if setting = utf8 "locale" then utf8 usual else setting
  match (f.value? "time-style").getD setting with
  | 0x2B :: format => return some (format, looked)
  | word =>
    let style ← Options.choice "time style" [["full-iso"], ["long-iso"], ["iso"]] word
    return some (utf8 (match style with
      | "full-iso" => "%Y-%m-%d %H:%M:%S.%N %z"
      | "iso" => "%Y-%m-%d"
      | _ => "%Y-%m-%d %H:%M"), looked)

end Usage

/-- Writes how much room files take. -/
def du (args : List Bytes) : Work Unit := do
  let f ← Options.read [.flag "a" "all", .flag "" "apparent-size", .flag "b" "bytes",
    .flag "c" "total", .flag "D" "dereference-args", .flag "H" "", .valued "d" "max-depth",
    .flag "h" "human-readable", .flag "" "inodes", .flag "k" "", .flag "L" "dereference",
    .flag "l" "count-links", .flag "m" "", .flag "P" "no-dereference", .flag "S" "separate-dirs",
    .flag "" "si", .flag "s" "summarize", .valued "t" "threshold", .flag "x" "one-file-system",
    .valued "B" "block-size", .flag "0" "null", .valued "X" "exclude-from", .valued "" "exclude",
    .valued "" "files0-from", ⟨"", "time", .optional⟩, .valued "" "time-style"] true 1 args
  let scale ← Usage.scaleOf f
  let mut depth : Option Nat := none
  let mut threshold : Usage.Threshold := .atLeast 0
  let mut leftOut : List Bytes := []
  let mut wrong := false
  for g in f.given do
    let value := g.value.getD []
    match g.key with
    | "d" =>
      match Amount.ofText "" value with
      | .number n => depth := some n
      | _ =>
        if value.head? = some 0x2D ∧ value.tail ≠ [] ∧ value.tail.all Amount.isDigit then
          depth := none
          continue
        complain (utf8 "invalid maximum depth " ++ Quote.plain value)
        wrong := true
    | "t" => threshold := ← Usage.thresholdOf "-t" value
    | "exclude" => leftOut := leftOut ++ [value]
    | "X" =>
      match ← contentOf value with
      | .ok content => leftOut := leftOut ++ (linesOf 0x0A content).map (·.bytes)
      | .error e =>
        complainOf (Quote.name value) e
        wrong := true
    | _ => pure ()
  if wrong then refer 1
  if f.has "a" ∧ f.has "s" then
    misused 1 (utf8 "cannot both summarize and show all entries")
  if f.has "s" then
    match depth with
    | some 0 => say (utf8 "warning: summarizing is the same as using --max-depth=0")
    | some n => misused 1 (utf8 s!"warning: summarizing conflicts with --max-depth={n}")
    | none => pure ()
    depth := some 0
  let time ← Usage.timeOf f
  let told : List (Except Bytes Bytes) ← match f.value? "files0-from" with
    | none => pure ((if f.operands = [] then [utf8 "."] else f.operands).map .ok)
    | some source =>
      match f.operands with
      | extra :: _ => namedTwice 1 extra
      | [] =>
        match ← contentOf source with
        | .ok content => pure (namesIn source content)
        | .error e =>
          fail 1 (utf8 "cannot open " ++ Quote.shell source ++
            utf8 (" for reading: " ++ e.libraryText))
  if f.has "inodes" ∧ (f.has "b" ∨ f.has "apparent-size") then
    say (utf8 "warning: options --apparent-size and -b are ineffective with --inodes")
  let links := f.last? ["D", "H", "L", "P"]
  let m : Usage.Manner :=
    { measure := if f.has "inodes" then .number
        else if f.has "b" ∨ f.has "apparent-size" then .bytes else .room
      scale := if f.has "inodes" then (match scale with
        | .short base => .short base
        | .units _ _ => .units 1 []) else scale
      everything := f.has "a", depth := depth, separate := f.has "S", countsNames := f.has "l"
      countsOnce := 1 < told.length || links = some "L" || f.has "files0-from"
      throughOperands := links = some "D" || links = some "H" || links = some "L"
      throughOthers := links = some "L", leftOut := leftOut, threshold := threshold, time := time
      zone := ← zone, ending := if f.has "0" then 0 else 0x0A }
  let mut total := Usage.Sum.none
  let mut seen : List Path := []
  for item in told do
    match item with
    | .error what => complain what
    | .ok [] => complain (utf8 "invalid zero-length file name")
    | .ok path =>
      let (sum, _, known) ← m.addUp 4096 0 path seen
      seen := known
      total := total.add sum
  if f.has "c" then m.tell total (utf8 "total")

end CommandShell.Tool
