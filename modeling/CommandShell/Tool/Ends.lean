import CommandShell.Tool.Input

/-!
# Tools that write an end of files

The first or the last lines or bytes of files are written, or all but those, with the names of the
files in front if there are several.
-/

namespace CommandShell.Tool

open Work

/-- Which part of a file is written. -/
structure Portion where
  /-- Lines are counted. -/
  lines : Bool
  /-- How many are written, or left out. -/
  count : Nat
  /-- They are left out. -/
  inverse : Bool

/-- The name of a file in headlines and complaints. -/
def inputName (name : Bytes) : Bytes :=
  if isInput name then utf8 "standard input" else name

/-- Writes the name of a file; a blank line stands in front unless it is the first. -/
def headline (first : Bool) (name : Bytes) : Work Unit :=
  put ((if first then [] else [0x0A]) ++ utf8 "==> " ++ inputName name ++ utf8 " <==\n")

/-- Goes through files that are written in parts. -/
def eachPart (headlines : Bool) (write : Bytes → Nat → Work Unit) :
    Bool → List Bytes → Work Unit
  | _, [] => return ()
  | first, name :: rest => do
    match ← openInput name with
    | .error e =>
      complainOf (utf8 "cannot open " ++ Quote.shell (inputName name) ++ utf8 " for reading") e
      eachPart headlines write first rest
    | .ok fd =>
      if headlines then headline first name
      write name fd
      closeInput name fd
      eachPart headlines write false rest

/-- Says that a file cannot be read, if that is so. -/
def checkRead (name : Bytes) (s : Source) : Work Unit :=
  match s.failure with
  | some e => complainOf (utf8 "error reading " ++ Quote.shell (inputName name)) e
  | none => return ()

/-- Gives what was read too much back to an open file. -/
def giveBack (s : Source) : Work Unit := do
  if s.left ≠ [] then let _ ← call (.seek s.fd .current (-(s.left.length : Int)))

/-- Writes the first lines of an open file. -/
def firstLines (ending : UInt8) : Nat → Source → Work Source
  | 0, s => return s
  | n + 1, s => do
    match ← s.line ending with
    | (none, s) => return s
    | (some l, s) =>
      put (l.whole ending)
      firstLines ending n s

/-- Writes the first bytes of an open file. -/
def firstBytes : Nat → Nat → Source → Work Source
  | 0, _, s => return s
  | _, 0, s => return s
  | fuel + 1, n, s => do
    let (bytes, s) ← s.chunk
    if bytes = [] then return s
    else
      put (bytes.take n)
      firstBytes fuel (n - bytes.length) { s with left := bytes.drop n }

/-- Writes the part of a file at its beginning. -/
def writeHead (ending : UInt8) (p : Portion) (name : Bytes) (fd : Nat) : Work Unit := do
  let s := Source.ofOpen fd
  if p.inverse then
    let (bytes, s) ← s.rest
    if p.lines then
      let ls := linesOf ending bytes
      for l in ls.take (ls.length - p.count) do
        put (l.whole ending)
    else put (bytes.take (bytes.length - p.count))
    checkRead name s
  else
    let s ← if p.lines then firstLines ending p.count s
      else firstBytes Source.portions p.count s
    checkRead name s
    giveBack s

/-- The last of a list. -/
def lastOf {α : Type} (n : Nat) (items : List α) : List α :=
  items.drop (items.length - n)

/-- Copies an open file to its end. -/
def copyRest : Nat → Source → Work Source
  | 0, s => return s
  | fuel + 1, s => do
    let (bytes, s) ← s.chunk
    if bytes = [] then return s
    else
      put bytes
      copyRest fuel s

/-- Passes over lines. -/
def skipLines (ending : UInt8) : Nat → Source → Work Source
  | 0, s => return s
  | n + 1, s => do
    match ← s.line ending with
    | (none, s) => return s
    | (some _, s) => skipLines ending n s

/-- Writes the part of a file at its end. -/
def writeTail (ending : UInt8) (p : Portion) (name : Bytes) (fd : Nat) : Work Unit := do
  let s := Source.ofOpen fd
  let s ←
    if p.inverse then
      if p.lines then do copyRest Source.portions (← skipLines ending (p.count - 1) s)
      else do
        let (bytes, s) ← s.rest
        put (bytes.drop (p.count - 1))
        pure s
    else do
      let (bytes, s) ← s.rest
      if p.lines then
        for l in lastOf p.count (linesOf ending bytes) do
          put (l.whole ending)
      else put (lastOf p.count bytes)
      pure s
  match s.failure with
  | some .badDescriptor =>
    complainOf (utf8 "cannot fstat " ++ Quote.shell (inputName name)) .badDescriptor
  | _ => checkRead name s

/-- The letters of units that a count may have. -/
def countUnits : String := "bkKmMGTPEZYRQ0"

/-- The part that an argument asks for; a sign in front asks for the other part. -/
def portionOf (lines : Bool) (sign : UInt8) (text : Bytes) : Work Portion := do
  let complaint := if lines then "invalid number of lines" else "invalid number of bytes"
  let inverse := text.head? = some sign
  let body := if inverse ∨ text.head? = some 0x2D then text.tail else text
  let n ← amount countUnits 1 complaint body
  return ⟨lines, n, inverse⟩

/-- The options of both tools. -/
def endOptions : List Switch :=
  [.valued "c" "bytes", .valued "n" "lines", .flag "q" "quiet", .flag "q" "silent",
   .flag "v" "verbose", .flag "z" "zero-terminated"]

/-- Whether the names of files are written. -/
def hasHeadlines (f : Options.Found) : Bool :=
  match f.last? ["q", "v"] with
  | some key => key = "v"
  | none => decide (1 < f.operands.length)

/-- Writes the beginning of files. -/
def head (args : List Bytes) : Work Unit := do
  let (old, args) ← match args with
    | (0x2D :: text) :: rest =>
      if (text.head?.map Amount.isDigit).getD false then
        let digits := text.takeWhile Amount.isDigit
        let letters := text.drop digits.length
        match letters.find? fun b => !(utf8 "bckmlqvz").contains b with
        | some b => misused 1 (utf8 "invalid trailing option -- " ++ [b])
        | none =>
          let sized := letters.filter (utf8 "bckml").contains
          let bytes := sized ≠ [] ∧ sized.getLast? ≠ some 0x6C
          let units := letters.filter (utf8 "bkm").contains
          let others := letters.filter (utf8 "qvz").contains
          let count := digits ++ (if bytes then units.drop (units.length - 1) else [])
          let words : List Bytes := if others = [] then [] else [0x2D :: others]
          pure (some ((if bytes then utf8 "-c" else utf8 "-n") ++ count), words ++ rest)
      else pure (none, args)
    | _ => pure (none, args)
  let f ← Options.read (endOptions ++ Switch.letters "0123456789") true 1 (old.toList ++ args)
  let p ← f.given.foldlM (fun p g => do
    if g.key = "c" ∨ g.key = "n" then portionOf (g.key = "n") 0x2D (g.value.getD [])
    else if g.key.all Char.isDigit then
      misused 1 (utf8 ("invalid trailing option -- " ++ g.key))
    else return p) ⟨true, 10, false⟩
  let ending : UInt8 := if f.has "z" then 0 else 0x0A
  eachPart (hasHeadlines f) (writeHead ending p) true (inputsOf f.operands)
  leaveInput [0x2D] (inputsOf f.operands)

/-- The words that a count among the arguments stands for, if there are few arguments. -/
def tailArguments (args : List Bytes) : List Bytes :=
  match args with
  | (sign :: text) :: rest =>
    let few : Bool := match rest with
      | [] => true
      | [file] => file.head? ≠ some 0x2D || file = [0x2D]
      | [[0x2D, 0x2D], _] => true
      | _ => false
    if few ∧ (sign = 0x2B ∨ (sign = 0x2D ∧ text ≠ [] ∧ text ≠ [0x63])) then
      let follows := text.getLast? = some 0x66
      let text := if follows then text.dropLast else text
      let digits := text.takeWhile Amount.isDigit
      let letters := text.drop digits.length
      let front : Bytes := if sign = 0x2B then [0x2B] else []
      let count : Bytes := if digits = [] then utf8 "10" else digits
      let others := (if follows then [utf8 "-f"] else []) ++ rest
      match letters with
      | [] => if digits = [] ∧ !(sign = 0x2B) then args else (utf8 "-n" ++ front ++ count) :: others
      | [0x6C] => (utf8 "-n" ++ front ++ count) :: others
      | [0x63] => (utf8 "-c" ++ front ++ count) :: others
      | [0x62] => (utf8 "-c" ++ front ++ count ++ [0x62]) :: others
      | _ => args
    else args
  | _ => args

/-- The first digit of a count that stands among the arguments as an option of its own. -/
def strayCount : List Bytes → Option UInt8
  | [] => none
  | arg :: rest =>
    match arg with
    | [0x2D, 0x2D] => none
    | [0x2D, letter] =>
      if Amount.isDigit letter then some letter
      else if (utf8 "ncs").contains letter then
        match rest with
        | [] => none
        | _ :: rest => strayCount rest
      else strayCount rest
    | 0x2D :: digit :: _ => if Amount.isDigit digit then some digit else strayCount rest
    | _ => strayCount rest

/-- Writes the end of files. -/
def tail (args : List Bytes) : Work Unit := do
  match strayCount (tailArguments args) with
  | some digit => fail 1 (utf8 "option used in invalid context -- " ++ [digit])
  | none => pure ()
  let f ← Options.read (endOptions ++ [⟨"f", "follow", .optional⟩, .flag "F" "", .flag "" "retry",
    .valued "" "pid", .valued "s" "sleep-interval", .valued "" "max-unchanged-stats"]) true 1
    (tailArguments args)
  let given := f.given.filter fun g => g.key = "c" ∨ g.key = "n"
  let portions ← given.mapM fun g => portionOf (g.key = "n") 0x2B (g.value.getD [])
  let last := portions.getLast?.getD ⟨true, 10, false⟩
  let p := { last with inverse := portions.any (·.inverse) }
  let ending : UInt8 := if f.has "z" then 0 else 0x0A
  if p.count = 0 ∧ !p.inverse ∧ !(f.has "f" || f.has "F") then return ()
  eachPart (hasHeadlines f) (writeTail ending p) true (inputsOf f.operands)
  leaveInput [0x2D] (inputsOf f.operands)
  if f.has "f" ∨ f.has "F" then
    let _ ← flush
    let _ ← call (.sleep 1000000000000000)

end CommandShell.Tool
