import CommandShell.Tool.Input
import CommandShell.Tool.Words

/-!
# Tools that work on the columns of lines

Positions in a line are counted from one. A list of positions is a union of ranges; it is kept as
ranges in order that do not overlap. Lines are cut down to the bytes or fields at such positions, or
broken at a greatest width, and lines of several files are put together to one.
-/

namespace CommandShell.Tool

open Work

/-! ### Lists of positions -/

/-- A range of positions. -/
structure Span where
  /-- The first position. -/
  first : Nat
  /-- The last position. -/
  last : Nat
deriving DecidableEq

namespace Span

/-- The greatest position. -/
def greatest : Nat := Amount.greatest

/-- What has a position, by what is said of lists that are wrong. -/
structure Unit where
  /-- Positions from zero on. -/
  numbered : String
  /-- A range with two dashes. -/
  badRange : String
  /-- In front of a number that is too great. -/
  tooLarge : String
  /-- In front of something else than a number. -/
  invalid : String

/-- Bytes have positions. -/
def ofBytes : Unit :=
  ⟨"byte/character positions are numbered from 1", "invalid byte or character range",
    "byte/character offset", "invalid byte/character position"⟩

/-- Fields have positions. -/
def ofFields : Unit :=
  ⟨"fields are numbered from 1", "invalid field range", "field number", "invalid field value"⟩

/-- A range that is being read. -/
structure Reading where
  /-- Where it starts, if its dash was there. -/
  start : Option Nat
  /-- Whether there are digits before the dash. -/
  hasStart : Bool
  /-- Whether there are digits after the dash. -/
  hasFinish : Bool
  /-- The number that is being read. -/
  value : Nat
  /-- Its digits. -/
  digits : Bytes

/-- Nothing is read yet. -/
def Reading.fresh : Reading := ⟨none, false, false, 0, []⟩

/-- The range at its end, or what is wrong with it. -/
def Reading.finish (u : Unit) (r : Reading) : Except Bytes Span :=
  match r.start with
  | some first =>
    if !r.hasStart ∧ !r.hasFinish then .error (utf8 "invalid range with no endpoint: -")
    else if !r.hasFinish then .ok ⟨first, greatest⟩
    else if r.value < first then .error (utf8 "invalid decreasing range")
    else .ok ⟨first, r.value⟩
  | none => if r.value = 0 then .error (utf8 u.numbered) else .ok ⟨r.value, r.value⟩

/-- The ranges of a list, as they stand there. -/
def readList (u : Unit) : Bytes → Reading → Except Bytes (List Span)
  | [], r => (r.finish u).map fun s => [s]
  | b :: rest, r =>
    if b = 0x2D then
      if r.start.isSome then .error (utf8 u.badRange)
      else if r.hasStart ∧ r.value = 0 then .error (utf8 u.numbered)
      else
        let first := if r.hasStart then r.value else 1
        readList u rest { r with start := some first, value := 0, digits := [] }
    else if b = 0x2C ∨ b = 0x20 ∨ b = 0x09 then
      match r.finish u with
      | .error e => .error e
      | .ok s => (readList u rest .fresh).map (s :: ·)
    else if Amount.isDigit b then
      let value := r.value * 10 + (b.toNat - 0x30)
      let digits := r.digits ++ [b]
      if greatest ≤ value then
        let all := digits ++ rest.takeWhile Amount.isDigit
        .error (utf8 (u.tooLarge ++ " ") ++ Quote.plain all ++ utf8 " is too large")
      else if r.start.isSome then
        readList u rest { r with hasFinish := true, value := value, digits := digits }
      else readList u rest { r with hasStart := true, value := value, digits := digits }
    else .error (utf8 (u.invalid ++ " ") ++ Quote.plain (b :: rest))

/-- Adds a range behind others; those start no later, the last of them is at the front. -/
def join (done : List Span) (s : Span) : List Span :=
  match done with
  | t :: more =>
    if s.first ≤ t.last then ⟨t.first, max t.last s.last⟩ :: more else s :: t :: more
  | [] => [s]

/-- The same positions as ranges in order that do not overlap. -/
def normal (spans : List Span) : List Span :=
  ((spans.mergeSort fun a b => a.first ≤ b.first).foldl join []).reverse

/-- The positions from one on that are in none of some ranges in order. -/
def complement : Nat → List Span → List Span
  | next, [] => if next ≤ greatest then [⟨next, greatest⟩] else []
  | next, s :: rest =>
    if next < s.first then ⟨next, s.first - 1⟩ :: complement (s.last + 1) rest
    else complement (s.last + 1) rest

/-- The items of a list at the positions of a range. -/
def select {α : Type} (items : List α) (s : Span) : List α :=
  (items.drop (s.first - 1)).take (s.last + 1 - s.first)

end Span

/-! ### Parts of lines -/

/-- The pieces of a text between separators. -/
def piecesOf (separator : UInt8) (text : Bytes) : List Bytes :=
  text.foldr (fun b pieces =>
    if b = separator then [] :: pieces
    else
      match pieces with
      | p :: more => (b :: p) :: more
      | [] => [[b]]) [[]]

/-- How parts of lines are taken. -/
structure Cutting where
  /-- The positions. -/
  spans : List Span
  /-- What separates fields; there is none if bytes are taken. -/
  separator : Option UInt8
  /-- What is written between parts. -/
  joint : Bytes
  /-- Lines without separator are left out. -/
  strict : Bool

/-- What is written of a line. -/
def Cutting.apply (c : Cutting) (line : Bytes) : Option Bytes :=
  match c.separator with
  | none =>
    let pieces := (c.spans.map (Span.select line)).filter (· ≠ [])
    some (c.joint.intercalate pieces)
  | some separator =>
    if line.contains separator then
      let fields := piecesOf separator line
      some (c.joint.intercalate (c.spans.flatMap (Span.select fields)))
    else if c.strict then none
    else some line

/-- Writes parts of lines. -/
def cut (args : List Bytes) : Work Unit := do
  let f ← Options.read [.valued "b" "bytes", .valued "c" "characters", .valued "f" "fields",
    .valued "d" "delimiter", .flag "n" "", .flag "s" "only-delimited", .flag "z" "zero-terminated",
    .flag "" "complement", .valued "" "output-delimiter"] true 1 args
  let mut list : Option (String × Bytes) := none
  for g in f.given do
    let value := g.value.getD []
    if ["b", "c", "f"].contains g.key then
      if list.isSome then misused 1 (utf8 "only one list may be specified")
      list := some (g.key, value)
    else if g.key = "d" ∧ 1 < value.length then
      misused 1 (utf8 "the delimiter must be a single character")
  let (key, text) ← match list with
    | some found => pure found
    | none => misused 1 (utf8 "you must specify a list of bytes, characters, or fields")
  let byFields : Bool := key = "f"
  if !byFields ∧ f.has "d" then
    misused 1 (utf8 "an input delimiter may be specified only when operating on fields")
  if !byFields ∧ f.has "s" then
    misused 1 (utf8 "suppressing non-delimited lines makes sense\n\tonly when operating on fields")
  let unit := if byFields then Span.ofFields else Span.ofBytes
  let spans ← match Span.readList unit text .fresh with
    | .ok spans => pure (Span.normal spans)
    | .error e => misused 1 e
  let delimiter := ((f.value? "d").map fun d => d.headD 0).getD 0x09
  let ending : UInt8 := if f.has "z" then 0 else 0x0A
  let joint := match f.value? "output-delimiter" with
    | some [] => [0]
    | some text => text
    | none => if byFields then [delimiter] else []
  let c : Cutting :=
    ⟨if f.has "complement" then Span.complement 1 spans else spans,
      if byFields then some delimiter else none, joint, f.has "s"⟩
  if byFields ∧ delimiter = ending then
    for name in inputsOf f.operands do
      match ← contentOf name with
      | .error e => complainOf (Quote.name name) e
      | .ok text =>
        let body := if text.getLast? = some ending then text.dropLast else text
        if text ≠ [] then
          match c.apply body with
          | some shown => put (shown ++ [ending])
          | none => pure ()
  else
    foldFiles ending (fun () l => do
      match c.apply l.bytes with
      | some shown => put (shown ++ [ending])
      | none => return ()) () (inputsOf f.operands)
  leaveInput [0x2D] (inputsOf f.operands)

/-! ### Lines of several files -/

namespace Pasting

/-- What stands between two parts, if anything does. -/
abbrev Joint : Type := Option UInt8

/-- The joints that a text describes; there are none if it ends with a backslash. -/
def joints? : Bytes → Option (List Joint)
  | [] => some []
  | 0x5C :: 0x30 :: rest => (joints? rest).map (none :: ·)
  | [0x5C] => none
  | 0x5C :: b :: rest =>
    let byte : UInt8 := match b with
      | 0x62 => 0x08
      | 0x66 => 0x0C
      | 0x6E => 0x0A
      | 0x72 => 0x0D
      | 0x74 => 0x09
      | 0x76 => 0x0B
      | _ => b
    (joints? rest).map (some byte :: ·)
  | b :: rest => (joints? rest).map (some b :: ·)

/-- The joint of a number, when they are used in turn. -/
def jointAt (joints : List Joint) (n : Nat) : Bytes :=
  ((joints[n % joints.length]?).join).toList

/-- Puts the parts of a line together. -/
def joined (joints : List Joint) : Nat → List Bytes → Bytes
  | _, [] => []
  | _, [p] => p
  | n, p :: rest => p ++ jointAt joints n ++ joined joints (n + 1) rest

/-- A file that lines are taken from in turn. -/
structure Feed where
  /-- Its name. -/
  name : Bytes
  /-- The file, unless it is the input. -/
  source : Source
  /-- Whether it is at its end. -/
  ended : Bool

/-- Takes a line of each file. The input is shared by all that use it. -/
def row (ending : UInt8) : List Feed → Source → Work (List (Option Bytes) × List Feed × Source)
  | [], input => return ([], [], input)
  | f :: rest, input => do
    let shared := isInput f.name
    let source := if shared then input else f.source
    let (l, s) ← if f.ended then pure (none, source) else source.line ending
    if l.isNone ∧ !f.ended then
      match s.failure with
      | some e => complainOf (Quote.name f.name) e
      | none => pure ()
    let input := if shared then s else input
    let f := { f with source := s, ended := l.isNone }
    let (parts, feeds, input) ← row ending rest input
    return (l.map (·.bytes) :: parts, f :: feeds, input)

/-- Writes lines that consist of a line of each file, as long as one of them has a line. -/
def rows (ending : UInt8) (joints : List Joint) : Nat → List Feed → Source → Work Unit
  | 0, _, _ => return ()
  | fuel + 1, feeds, input => do
    let (parts, feeds, input) ← row ending feeds input
    if parts.any (·.isSome) then
      put (joined joints 0 (parts.map (·.getD [])) ++ [ending])
      rows ending joints fuel feeds input

end Pasting

/-- Writes lines that are put together of several. -/
def paste (args : List Bytes) : Work Unit := do
  let f ← Options.read [.valued "d" "delimiters", .flag "s" "serial", .flag "z" "zero-terminated"]
    true 1 args
  let ending : UInt8 := if f.has "z" then 0 else 0x0A
  let text := (f.value? "d").getD [0x09]
  let joints ← match Pasting.joints? text with
    | some [] => pure [none]
    | some found => pure found
    | none =>
      fail 1 (utf8 "delimiter list ends with an unescaped backslash: " ++ text)
  let names := inputsOf f.operands
  if f.has "s" then
    for name in names do
      match ← openInput name with
      | .error e => complainOf (Quote.name name) e
      | .ok fd =>
        let (bytes, s) ← (Source.ofOpen fd).rest
        put (Pasting.joined joints 0 ((linesOf ending bytes).map (·.bytes)) ++ [ending])
        match s.failure with
        | some e => complainOf (Quote.name name) e
        | none => pure ()
        closeInput name fd
  else
    let feeds ← names.mapM fun name => do
      match ← openInput name with
      | .ok fd => return ⟨name, .ofOpen fd, false⟩
      | .error e => fail 1 (Quote.name name ++ utf8 (": " ++ e.libraryText))
    Pasting.rows ending joints Source.portions feeds (.ofOpen 0)

/-! ### Lines of limited width -/

namespace Folding

/-- How lines are broken. -/
structure Manner where
  /-- The greatest width. -/
  width : Nat
  /-- Bytes are counted, whatever they do. -/
  bytes : Bool
  /-- Lines are broken after blanks, if there are some. -/
  atBlanks : Bool

/-- The column after a byte. -/
def Manner.after (m : Manner) (column : Nat) (b : UInt8) : Nat :=
  if m.bytes then column + 1
  else if b = 0x08 then column - 1
  else if b = 0x0D then 0
  else if b = 0x09 then column + 8 - column % 8
  else column + 1

/-- The column after some bytes. -/
def Manner.columnOf (m : Manner) (bytes : Bytes) : Nat :=
  bytes.foldl m.after 0

/-- Cuts what is written of a line after its last blank, if it has one; the line has its last byte
first, and so have the parts. -/
def splitBlank (line : Bytes) : Option (Bytes × Bytes) :=
  let tail := line.takeWhile fun b => b ≠ 0x20 && b ≠ 0x09
  if tail.length < line.length then some (line.drop tail.length, tail) else none

/-- Breaks a line. What is written of its last part has its last byte first. -/
def split (m : Manner) : Nat → Bytes → Bytes → List Bytes
  | 0, _, line => [line.reverse]
  | fuel + 1, text, line =>
    match text with
    | [] => [line.reverse]
    | b :: rest =>
      if m.after (m.columnOf line.reverse) b ≤ m.width then split m fuel rest (b :: line)
      else
        match if m.atBlanks then splitBlank line else none with
        | some (front, tail) => front.reverse :: split m fuel text tail
        | none =>
          if line = [] then split m fuel rest [b] else line.reverse :: split m fuel text []

end Folding

/-- Writes lines in pieces of limited width. -/
def fold (args : List Bytes) : Work Unit := do
  let args := args.map fun a => match a with
    | 0x2D :: b :: rest => if Amount.isDigit b then utf8 "-w" ++ b :: rest else a
    | _ => a
  let f ← Options.read [.flag "b" "bytes", .flag "s" "spaces", .valued "w" "width"] true 1 args
  let widths ← (f.given.filter (·.key = "w")).mapM fun g => do
    let text := g.value.getD []
    let complaint := utf8 "invalid number of columns: " ++ Quote.plain text
    match Amount.ofText "" text with
    | .number 0 => fail 1 (complaint ++ utf8 ": Numerical result out of range")
    | .number n => pure n
    | .excessive => fail 1 (complaint ++ utf8 ": Numerical result out of range")
    | .invalid => fail 1 complaint
  let m : Folding.Manner := ⟨widths.getLast?.getD 80, f.has "b", f.has "s"⟩
  foldFiles 0x0A (fun () l => do
    let pieces := Folding.split m (2 * l.bytes.length + 1) l.bytes []
    put (({ l with bytes := [0x0A].intercalate pieces } : TextLine).whole 0x0A))
    () (inputsOf f.operands)

end CommandShell.Tool
