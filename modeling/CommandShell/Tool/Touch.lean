import CommandShell.Tool.Clock
import CommandShell.Tool.Directory

/-!
# Making files

Files are made where there are none, named pipes as well. The times of files are set, and files are
cut or filled up to a length.
-/

namespace CommandShell.Tool

open Work

/-- The times that a file gets: when it was last changed, and when it was last looked at. -/
structure NewTimes where
  /-- When it was last changed. -/
  modified : Int
  /-- When it was last looked at. -/
  accessed : Int

/-- The times that options ask for: those of another file, or what a text says, counted from these
or from the present. -/
def newTimes (f : Options.Found) : Work NewTimes := do
  let zone ← zone
  let now ← present
  let ofText := fun (text : Bytes) (base : Int) => do
    match Text.Calendar.time? zone base text with
    | some time => pure time
    | none => fail 1 (utf8 "invalid date format " ++ Quote.plain text)
  let digits ← (f.given.filter (·.key = "t")).mapM fun g => do
    let text := g.value.getD []
    match Clock.timeOfDigits? true zone now text with
    | some time => pure time
    | none => fail 1 (utf8 "invalid date format " ++ Quote.plain text)
  if digits ≠ [] ∧ (f.has "r" ∨ f.has "d") then
    misused 1 (utf8 "cannot specify times from more than one source")
  match f.value? "r", f.value? "d", digits.getLast? with
  | some path, text, _ =>
    match ← call (.facts path (!f.has "h")) with
    | .error e =>
      complainAbout "failed to get attributes of" path e
      stop
    | .ok k =>
      match text with
      | none => return ⟨k.modified, k.accessed⟩
      | some text => return ⟨← ofText text k.modified, ← ofText text k.accessed⟩
  | none, some text, _ =>
    let time ← ofText text now
    return ⟨time, time⟩
  | none, none, some time => return ⟨time, time⟩
  | none, none, none => return ⟨now, now⟩

/-- Makes files that are not there, and sets the times of all. -/
def touch (args : List Bytes) : Work Unit := do
  let f ← Options.read [.flag "a" "", .flag "c" "no-create", .valued "d" "date", .flag "f" "",
    .flag "h" "no-dereference", .flag "m" "", .valued "r" "reference", .valued "t" "",
    .valued "" "time"] true 1 args
  let words ← (f.given.filter (·.key = "time")).mapM fun g =>
    Options.choice "--time" [["atime", "access", "use"], ["mtime", "modify"]] (g.value.getD [])
  let times ← newTimes f
  if f.operands = [] then misused 1 (utf8 "missing file operand")
  let looked := f.has "a" || words.contains "atime"
  let changed := f.has "m" || words.contains "mtime"
  let both := looked == changed
  let modified := if both || changed then some times.modified else none
  let accessed := if both || looked then some times.accessed else none
  for path in f.operands.filter (· ≠ [0x2D]) do
    let set : Work (Except Errno Unit) :=
      call (.change (.setTimes path (!f.has "h") modified accessed))
    let there : Except Errno Facts ← call (.facts path (!f.has "h"))
    match there with
    | .ok _ =>
      match ← set with
      | .ok () => pure ()
      | .error e => complainAbout "setting times of" path e
    | .error e =>
      if f.has "c" ∨ f.has "h" then
        if !(f.has "c" ∧ e = .noEntry) then complainAbout "setting times of" path e
      else if path.getLast? = some slash then complainAbout "setting times of" path e
      else
        match ← call (.openFile path ⟨false, true, false, true, false, false⟩) with
        | .ok fd =>
          let _ ← call (.close fd)
          let _ ← set
        | .error e => complainAbout "cannot touch" path e

/-- Makes named pipes. -/
def mkfifo (args : List Bytes) : Work Unit := do
  let f ← Options.read [.valued "m" "mode", ⟨"Z", "context", .optional⟩] true 1 args
  if f.operands = [] then missingOperand 1
  let mode ← match f.value? "m" with
    | some text =>
      match ModeClause.ofText? text with
      | some clauses =>
        let mode := ModeClause.applyAll (← currentMask) false 0o666 clauses
        if 0o777 < mode then fail 1 (utf8 "mode must specify only file permission bits")
        pure (some mode)
      | none => fail 1 (utf8 "invalid mode")
    | none => pure none
  for path in f.operands do
    match ← call (.change (.makePipe path)) with
    | .ok () =>
      match mode with
      | some m => let _ ← call (.change (.setMode path m))
      | none => pure ()
    | .error e => complainAbout "cannot create fifo" path e

/-- How a length is given. -/
inductive Length where
  /-- It is so much. -/
  | exactly (n : Nat)
  /-- It is so much more. -/
  | more (n : Nat)
  /-- It is so much less. -/
  | less (n : Nat)
  /-- It is so much at most. -/
  | atMost (n : Nat)
  /-- It is so much at least. -/
  | atLeast (n : Nat)
  /-- It is the greatest multiple of so much that is not greater. -/
  | downTo (n : Nat)
  /-- It is the least multiple of so much that is not less. -/
  | upTo (n : Nat)

namespace Length

/-- The length of a file that was so long. -/
def of (old : Nat) : Length → Nat
  | exactly n => n
  | more n => old + n
  | less n => old - n
  | atMost n => min old n
  | atLeast n => max old n
  | downTo n => if n = 0 then old else old / n * n
  | upTo n => if n = 0 then old else (old + n - 1) / n * n

/-- Whether a length depends on the one that a file has. -/
def isRelative : Length → Bool
  | exactly _ => false
  | _ => true

/-- A length of the same kind with another number, which takes its own sign. -/
def withNumber (n : Nat) : Length → Length
  | exactly _ => exactly n
  | more _ => more n
  | less _ => more n
  | atMost _ => atMost n
  | atLeast _ => atLeast n
  | downTo _ => downTo n
  | upTo _ => upTo n

/-- A length of which the number counts units of a size. -/
def scaled (unit : Nat) : Length → Length
  | exactly n => exactly (n * unit)
  | more n => more (n * unit)
  | less n => less (n * unit)
  | atMost n => atMost (n * unit)
  | atLeast n => atLeast (n * unit)
  | downTo n => downTo (n * unit)
  | upTo n => upTo (n * unit)

/-- The kind of length that a mark stands for. -/
def ofMark? : UInt8 → Option Length
  | 0x3C => some (atMost 0)
  | 0x3E => some (atLeast 0)
  | 0x2F => some (downTo 0)
  | 0x25 => some (upTo 0)
  | _ => none

/-- The length that a text gives after the ones before it. A number without a mark keeps the mark
that there was, and where there is one no sign may follow. -/
def next (before : Option Length) (text : Bytes) : Work Length := do
  let body := text.dropWhile (· = 0x20)
  let marked := body.head?.bind ofMark?
  let kind := (marked.or before).getD (exactly 0)
  let number := (if marked.isSome then body.drop 1 else body).dropWhile (· = 0x20)
  let signed := number.head?.any (fun c => c = 0x2B ∨ c = 0x2D)
  if signed ∧ kind.isRelative then misused 1 (utf8 "multiple relative modifiers specified")
  let digits := if signed then number.drop 1 else number
  if signed ∧ !digits.head?.any Amount.isDigit then
    fail 1 (utf8 "Invalid number: " ++ Quote.plain number)
  let n ← amount "KMGTPEZYkmgtRQ" 1 "Invalid number" digits
  if signed then return if number.head? = some 0x2D then .less n else .more n
  match kind with
  | downTo _ | upTo _ => if n = 0 then fail 1 (utf8 "division by zero")
  | _ => pure ()
  return kind.withNumber n

/-- The length that several texts give one after another. -/
def ofTexts (texts : List Bytes) : Work (Option Length) :=
  texts.foldlM (fun before text => do return some (← next before text)) none

end Length

/-- Gives files a length. -/
def truncate (args : List Bytes) : Work Unit := do
  let f ← Options.read [.flag "c" "no-create", .flag "o" "io-blocks", .valued "r" "reference",
    .valued "s" "size"] true 1 args
  let length ← Length.ofTexts <| f.given.filterMap fun g => if g.key = "s" then g.value else none
  if length.isNone ∧ !f.has "r" then
    misused 1 (utf8 "you must specify either '--size' or '--reference'")
  if f.has "r" ∧ length.any (!·.isRelative) then
    misused 1 (utf8 "you must specify a relative '--size' with '--reference'")
  if f.has "o" ∧ length.isNone then
    misused 1 (utf8 "'--io-blocks' was specified but '--size' was not")
  if f.operands = [] then misused 1 (utf8 "missing file operand")
  let reference ← match f.value? "r" with
    | some path =>
      match ← call (.facts path true) with
      | .ok k => pure (some k.size)
      | .error e =>
        complainAbout "cannot stat" path e
        stop
    | none => pure none
  for path in f.operands do
    match ← call (.openFile path ⟨false, true, false, !f.has "c", false, false⟩) with
    | .error e =>
      if !(f.has "c" ∧ e = .noEntry) then
        complainOf (utf8 "cannot open " ++ Quote.shell path ++ utf8 " for writing") e
    | .ok fd =>
      let old ← match ← call (.factsOf fd) with
        | .ok k => pure k.size
        | .error _ => pure 0
      let _ ← call (.close fd)
      let unit := if f.has "o" then 4096 else 1
      let size := match length with
        | some l => (l.scaled unit).of (reference.getD old)
        | none => reference.getD 0
      match ← call (.change (.resize path size)) with
      | .ok () => pure ()
      | .error e => complainAbout "failed to truncate" path e

/-- Waits until all that was written is safe. Files that are named must be there. -/
def sync (args : List Bytes) : Work Unit := do
  let f ← Options.read [.flag "d" "data", .flag "f" "file-system"] true 1 args
  if f.has "d" ∧ f.has "f" then
    fail 1 (utf8 "cannot specify both --data and --file-system")
  if f.has "d" ∧ f.operands = [] then fail 1 (utf8 "--data needs at least one argument")
  for path in f.operands do
    match ← call (.openFile path .reading) with
    | .ok fd => let _ ← call (.close fd)
    | .error e => complainAbout "error opening" path e

end CommandShell.Tool
