import CommandShell.Text.RegexSyntax
import CommandShell.Tool.Input

/-!
# Tools that copy files

Files are written one after the other, as they are or with marks for what cannot be seen, with
numbers in front of the lines, backwards, or to several places at once.
-/

namespace CommandShell.Tool

open Work

/-! ### One file after the other -/

/-- How what is copied is marked. -/
structure Marking where
  /-- Lines are numbered. -/
  numbers : Bool
  /-- Lines without bytes are not. -/
  skipsBlank : Bool
  /-- Of several such lines only the first is written. -/
  squeezes : Bool
  /-- The ends of lines are marked. -/
  ends : Bool
  /-- Tabs are marked. -/
  tabs : Bool
  /-- Other bytes that cannot be seen are marked. -/
  others : Bool
deriving DecidableEq

/-- How far marked lines have been written. -/
structure MarkingState where
  /-- The number of lines without bytes that were just written, or nothing inside of a line. -/
  blanks : Option Nat
  /-- The number of the last line. -/
  number : Nat
  /-- Whether a carriage return is kept back until it is known what follows. -/
  held : Bool

/-- A byte that cannot be seen with a mark. -/
def visible (b : UInt8) : Bytes :=
  let low := b % 128
  let body : Bytes := if low < 32 then [0x5E, low + 64] else if low = 127 then utf8 "^?" else [low]
  if 128 ≤ b then utf8 "M-" ++ body else body

/-- The number of a line with what separates it from the line. -/
def numbered (n : Nat) : Bytes :=
  let digits := utf8 (toString n)
  List.replicate (6 - digits.length) (0x20 : UInt8) ++ digits ++ [0x09]

/-- What is written for a byte. -/
def markByte (m : Marking) (s : MarkingState) (b : UInt8) : Bytes × MarkingState :=
  if b = 0x0A then
    let front : Bytes := if s.held then utf8 "^M" else []
    let ending : Bytes := if m.ends then utf8 "$\n" else [0x0A]
    match if s.held then none else s.blanks with
    | none => (front ++ ending, { s with blanks := some 0, held := false })
    | some n =>
      if m.squeezes ∧ 1 ≤ n then ([], s)
      else
        let counts := m.numbers && !m.skipsBlank
        let number := if counts then s.number + 1 else s.number
        ((if counts then numbered number else []) ++ ending, ⟨some (n + 1), number, false⟩)
  else
    let starts := s.blanks.isSome && m.numbers
    let number := if starts then s.number + 1 else s.number
    let front : Bytes := (if s.held then [0x0D] else []) ++ (if starts then numbered number else [])
    let keeps := b = 0x0D && m.ends && !m.others
    let body : Bytes :=
      if keeps then []
      else if b = 0x09 then (if m.tabs then utf8 "^I" else [b])
      else if m.others then visible b else [b]
    (front ++ body, ⟨none, number, keeps⟩)

/-- What is written for bytes, in portions, last first. -/
def markBytes (m : Marking) : Bytes → MarkingState → List Bytes → List Bytes × MarkingState
  | [], s, done => (done, s)
  | b :: rest, s, done =>
    let (shown, s) := markByte m s b
    markBytes m rest s (shown :: done)

/-- Writes bytes at once. What goes wrong with that ends the work. -/
def writeNow (bytes : Bytes) : Work Unit := do
  if bytes ≠ [] then
    match ← call (.write 1 bytes) with
    | .ok () => return ()
    | .error e =>
      complainOf (utf8 "write error") e
      stop

/-- Copies an open file in portions. -/
def copyMarked (m : Option Marking) : Nat → Source → MarkingState → Work (Source × MarkingState)
  | 0, s, state => return (s, state)
  | fuel + 1, s, state => do
    let (bytes, s) ← s.chunk
    if bytes = [] then return (s, state)
    else
      match m with
      | none =>
        writeNow bytes
        copyMarked m fuel s state
      | some marking =>
        let (shown, state) := markBytes marking bytes state []
        writeNow shown.reverse.flatten
        copyMarked m fuel s state

/-- Whether an open file would be copied to its own end. -/
def growsItself (fd : Nat) : Work Bool := do
  match ← call (.factsOf fd), ← call (.factsOf 1) with
  | .ok a, .ok b =>
    if a.kind = .file ∧ a.location = b.location then
      match ← call (.seek fd .current 0) with
      | .ok n => return n < b.size
      | .error _ => return false
    else return false
  | _, _ => return false

/-- Writes files one after the other. -/
def cat (args : List Bytes) : Work Unit := do
  let f ← Options.read [.flag "b" "number-nonblank", .flag "n" "number", .flag "s" "squeeze-blank",
    .flag "v" "show-nonprinting", .flag "E" "show-ends", .flag "T" "show-tabs",
    .flag "A" "show-all", .flag "e" "", .flag "t" "", .flag "u" ""] true 1 args
  let any := fun (keys : List String) => keys.any f.has
  let m : Marking :=
    { numbers := any ["b", "n"], skipsBlank := f.has "b", squeezes := f.has "s"
      ends := any ["E", "A", "e"], tabs := any ["T", "A", "t"], others := any ["v", "A", "e", "t"] }
  let plain := m = ⟨false, false, false, false, false, false⟩
  match ← call (.factsOf 1) with
  | .ok _ => pure ()
  | .error e => fail 1 (utf8 ("standard output: " ++ e.libraryText))
  let mut state : MarkingState := ⟨some 0, 0, false⟩
  for name in inputsOf f.operands do
    match ← openInput name with
    | .error e => complainOf (Quote.name name) e
    | .ok fd =>
      if ← growsItself fd then complain (Quote.name name ++ utf8 ": input file is output file")
      else
        let (s, next) ←
          copyMarked (if plain then none else some m) Source.portions (.ofOpen fd) state
        state := next
        match s.failure with
        | some e => complainOf (Quote.name name) e
        | none => pure ()
      closeInput name fd
  if state.held then writeNow [0x0D]
  leaveInput (utf8 "closing standard input") (inputsOf f.operands)

/-! ### Backwards -/

/-- What separates the parts of a text. -/
inductive Separator where
  /-- A text. -/
  | text (bytes : Bytes)
  /-- What matches an expression. -/
  | matching (r : Text.Regex)

/-- The end of the separator that begins at a place in front of a limit. -/
def Separator.endAt (s : Separator) (text : Array UInt8) (limit start : Nat) : Option Nat :=
  match s with
  | .text bytes =>
    let finish := start + bytes.length
    if finish ≤ limit ∧ (text.extract start finish).toList = bytes then some finish else none
  | .matching r =>
    let subject : Text.Regex.Subject := ⟨text.extract 0 limit, false, true⟩
    (Text.Regex.matchAt subject r start).map (·.position)

/-- Cuts a text at its separators, the last one first. A part has its separator in front of it or at
its end. -/
def partsBackwards (s : Separator) (before : Bool) (text : Array UInt8) :
    Nat → Nat → Nat → List Bytes
  | 0, _, finish => [(text.extract 0 finish).toList]
  | start + 1, limit, finish =>
    match s.endAt text limit start with
    | some e =>
      let cut := if before then start else e
      (text.extract cut finish).toList :: partsBackwards s before text start start cut
    | none => partsBackwards s before text start limit finish

/-- Writes the lines of files, the last one first. -/
def tac (args : List Bytes) : Work Unit := do
  let f ← Options.read [.flag "b" "before", .flag "r" "regex", .valued "s" "separator"] true 1 args
  let given := (f.value? "s").getD [0x0A]
  let separator ←
    if f.has "r" then
      if given = [] then fail 1 (utf8 "separator cannot be empty")
      match Text.Regex.parse ⟨false, true, false, false⟩ given with
      | .ok (r, _) => pure (Separator.matching r)
      | .error e => fail 1 (utf8 e.text)
    else pure (.text (if given = [] then [0] else given))
  for name in inputsOf f.operands do
    match ← openInput name with
    | .error e => complainOf (utf8 "failed to open " ++ Quote.shell name ++ utf8 " for reading") e
    | .ok fd =>
      let (bytes, s) ← (Source.ofOpen fd).rest
      closeInput name fd
      match s.failure with
      | some e =>
        let what := if isInput name then utf8 "'standard input'" else Quote.name name
        complainOf (what ++ utf8 ": read error")
          (if e = .isDirectory then .invalidArgument else e)
      | none =>
        if given = [0x0A] ∧ !f.has "b" then
          for l in (linesOf 0x0A bytes).reverse do
            put (l.whole 0x0A)
        else
          let size := bytes.length
          for part in partsBackwards separator (f.has "b") bytes.toArray size size size do
            put part
  leaveInput [0x2D] (inputsOf f.operands)

/-- Writes the bytes of each line backwards. -/
def rev (args : List Bytes) : Work Unit := do
  let f ← Options.read [] true 1 args
  let turn : Nat → Work Unit := fun fd => do
    let (bytes, s) ← (Source.ofOpen fd).rest
    for l in linesOf 0x0A bytes do
      put (({ l with bytes := l.bytes.reverse } : TextLine).whole 0x0A)
    if s.failure.isSome then fault 1
  if f.operands = [] then turn 0
  for name in f.operands do
    match ← call (.openFile name .reading) with
    | .error e => complainOf (utf8 "cannot open " ++ name) e
    | .ok fd =>
      turn fd
      let _ ← call (.close fd)

/-! ### To several places -/

/-- Copies the input to open files as long as there is one that takes it. -/
def teeFrom (names : List (Nat × Bytes)) : Nat → Source → List Nat → Work Unit
  | 0, _, _ => return ()
  | fuel + 1, s, fds => do
    if fds = [] then return ()
    let (bytes, s) ← s.chunk
    if bytes = [] then
      match s.failure with
      | some e => complainOf (utf8 "read error") e
      | none => return ()
    else
      let left ← fds.filterM fun fd => do
        match ← call (.write fd bytes) with
        | .ok () => return true
        | .error e =>
          complainOf ((names.lookup fd).getD []) e
          return false
      teeFrom names fuel s left

/-- Copies the input to the output and to files. -/
def tee (args : List Bytes) : Work Unit := do
  let f ← Options.read [.flag "a" "append", .flag "i" "ignore-interrupts",
    ⟨"p", "output-error", .optional⟩] true 1 args
  if f.has "i" then let _ ← call (.react Signal.int.number .ignore)
  let how := if f.has "a" then Opening.appending else .writing
  let opened ← f.operands.mapM fun name => do
    match ← call (.openFile name how) with
    | .ok fd => return [(fd, Quote.name name)]
    | .error e =>
      complainOf (Quote.name name) e
      return []
  let all := (1, utf8 "'standard output'") :: opened.flatten
  teeFrom all Source.portions (.ofOpen 0) (all.map (·.1))

end CommandShell.Tool
