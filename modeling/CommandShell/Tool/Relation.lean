import CommandShell.Text.Collation
import CommandShell.Tool.Column

/-!
# Joining files

Two files whose lines are in the order of a field are joined: lines with the same field make one
line, for each pair of them. Lines without a partner can be written as well.
-/

namespace CommandShell.Tool

open Work Text

namespace Relation

/-- A field that is written. -/
inductive Item where
  /-- The field that lines have in common. -/
  | common
  /-- A field of the first file. -/
  | first (n : Nat)
  /-- A field of the second file. -/
  | second (n : Nat)

/-- How files are joined. -/
structure Manner where
  /-- What separates fields; blanks do if it is not given. -/
  separator : Option UInt8
  /-- Lines are not divided at all. -/
  undivided : Bool
  /-- The byte that ends lines. -/
  ending : UInt8
  /-- The position of the field in the first file. -/
  firstKey : Nat
  /-- The position of the field in the second file. -/
  secondKey : Nat
  /-- Case does not matter. -/
  folds : Bool
  /-- What is written for a field that is not there. -/
  filler : Bytes
  /-- The fields that are written, if they are given. -/
  items : Option (List Item)
  /-- Pairs are written. -/
  pairs : Bool
  /-- Lines of the first file without a partner are written. -/
  firstAlone : Bool
  /-- Lines of the second file without a partner are written. -/
  secondAlone : Bool
  /-- Whether the order is checked: always, never, or when a line has no partner. -/
  checks : Option Bool

/-- A line with its fields. -/
structure Row where
  /-- The line. -/
  line : Bytes
  /-- Its fields. -/
  fields : List Bytes

/-- The fields of a line between blanks. Blanks in front are left out, those at the end are followed
by a field without bytes. -/
def blankFields : Nat → Bytes → List Bytes
  | 0, _ => []
  | fuel + 1, line =>
    let field := line.takeWhile (!Collation.isBlank ·)
    match line.drop field.length with
    | [] => [field]
    | _ :: rest => field :: blankFields fuel (rest.dropWhile Collation.isBlank)

/-- The fields of a line. -/
def Manner.fieldsOf (m : Manner) (line : Bytes) : List Bytes :=
  if m.undivided then [line]
  else
    match m.separator with
    | some b => if line = [] then [] else piecesOf b line
    | none =>
      match line.dropWhile Collation.isBlank with
      | [] => []
      | rest => blankFields (rest.length + 1) rest

/-- A field at a position, or nothing. -/
def Row.field (r : Row) (n : Nat) : Bytes :=
  r.fields.getD (n - 1) []

/-- The order of two fields. -/
def Manner.order (m : Manner) (a b : Bytes) : Ordering :=
  let shown := fun (text : Bytes) =>
    if m.folds then text.map fun c => if 0x61 ≤ c ∧ c ≤ 0x7A then c - 0x20 else c else text
  Collation.bytes (shown a) (shown b)

/-- Writes a line for rows, of which one may be missing. -/
def Manner.write (m : Manner) (x y : Option Row) : Work Unit := do
  let filled := fun (text : Bytes) => if text = [] then m.filler else text
  let fieldOf := fun (r : Option Row) (n : Nat) => filled ((r.map (·.field n)).getD [])
  let common := match x, y with
    | none, some r => fieldOf (some r) m.secondKey
    | _, _ => fieldOf x m.firstKey
  let others := fun (r : Option Row) (key : Nat) =>
    ((((r.map (·.fields)).getD []).zipIdx 1).filter (·.2 ≠ key)).map fun f => filled f.1
  let fields := match m.items with
    | some items => items.map fun i =>
        match i with
        | .common => common
        | .first n => fieldOf x n
        | .second n => fieldOf y n
    | none => common :: others x m.firstKey ++ others y m.secondKey
  let joint := if m.undivided then 0x0A else m.separator.getD 0x20
  put ([joint].intercalate fields ++ [m.ending])

/-- What is left of a file. -/
structure Side where
  /-- Its name. -/
  name : Bytes
  /-- The position of the field. -/
  key : Nat
  /-- The rows that were not read yet. -/
  rows : List Row
  /-- The row that was read last. -/
  last : Option Row
  /-- The number of rows that were read. -/
  count : Nat
  /-- Whether it was said that the rows are not in order. -/
  blamed : Bool

/-- Reads a row. -/
def next (m : Manner) (alone : Bool) (s : Side) : Work (Option Row × Side) := do
  match s.rows with
  | [] => return (none, s)
  | r :: rest =>
    let after := { s with rows := rest, last := some r, count := s.count + 1 }
    let checked := m.checks = some true || (m.checks.isNone && alone)
    let falls : Bool := match s.last with
      | some before => m.order (before.field s.key) (r.field s.key) = .gt
      | none => false
    if checked ∧ falls ∧ !s.blamed then
      say (s.name ++ utf8 s!":{after.count}: is not sorted: " ++ r.line)
      if m.checks = some true then exit 1
      return (some r, { after with blamed := true })
    else return (some r, after)

/-- Reads the rows with the same field as one that was read, and the one after them. -/
def group (m : Manner) (alone : Bool) (field : Bytes) :
    Nat → List Row → Side → Work (List Row × Option Row × Side)
  | 0, done, s => return (done.reverse, none, s)
  | fuel + 1, done, s => do
    match ← next m alone s with
    | (none, s) => return (done.reverse, none, s)
    | (some r, s) =>
      if m.order (r.field s.key) field = .eq then group m alone field fuel (r :: done) s
      else return (done.reverse, some r, s)

/-- Goes to the end of a file whose rows have no partners. -/
def finish (m : Manner) (alone : Bool) (write : Row → Work Unit) :
    Nat → Option Row → Side → Work Side
  | 0, _, s => return s
  | fuel + 1, row, s => do
    match row with
    | none => return s
    | some r =>
      write r
      let (row, s) ← next m alone s
      finish m alone write fuel row s

/-- Joins what is left of two files, whose next rows are given. -/
def join (m : Manner) : Nat → Bool → Option Row → Option Row → Side → Side → Work (Side × Side)
  | 0, _, _, _, x, y => return (x, y)
  | fuel + 1, alone, a, b, x, y => do
    let onlyFirst := fun (r : Row) => if m.firstAlone then m.write (some r) none else pure ()
    let onlySecond := fun (r : Row) => if m.secondAlone then m.write none (some r) else pure ()
    match a, b with
    | some r, some s =>
      match m.order (r.field x.key) (s.field y.key) with
      | .lt =>
        onlyFirst r
        let (a, x) ← next m alone x
        join m fuel true a b x y
      | .gt =>
        onlySecond s
        let (b, y) ← next m alone y
        join m fuel true a b x y
      | .eq =>
        let (rows, a, x) ← group m alone (s.field y.key) (x.rows.length + 1) [r] x
        let (partners, b, y) ← group m alone (r.field x.key) (y.rows.length + 1) [s] y
        if m.pairs then
          for row in rows do
            for partner in partners do
              m.write (some row) (some partner)
        join m fuel alone a b x y
    | _, _ =>
      let x ← finish m alone onlyFirst (x.rows.length + 2) a x
      let y ← finish m alone onlySecond (y.rows.length + 2) b y
      return (x, y)

/-! ### Arguments -/

/-- The position of a field. -/
def positionOf (text : Bytes) : Work Nat := do
  match Amount.ofText "" text with
  | .number n =>
    if n = 0 then fail 1 (utf8 "invalid field number: " ++ Quote.plain text)
    return n
  | .excessive => return Amount.greatest
  | .invalid => fail 1 (utf8 "invalid field number: " ++ Quote.plain text)

/-- The field that a text asks for. -/
def itemOf (text : Bytes) : Work Item := do
  match text with
  | [0x30] => return .common
  | 0x31 :: 0x2E :: n => return .first (← positionOf n)
  | 0x32 :: 0x2E :: n => return .second (← positionOf n)
  | b :: _ =>
    if b = 0x30 ∨ b = 0x31 ∨ b = 0x32 then
      fail 1 (utf8 "invalid field specifier: " ++ Quote.plain text)
    else fail 1 (utf8 "invalid file number in field spec: " ++ Quote.plain text)
  | [] => fail 1 (utf8 "invalid file number in field spec: ''")

/-- The file that a text chooses. -/
def fileOf (text : Bytes) : Work Nat :=
  if text = utf8 "1" then return 1
  else if text = utf8 "2" then return 2
  else fail 1 (utf8 "invalid field number: " ++ Quote.plain text)

/-- What separates fields; a newline stands for nothing that does. -/
def separatorOf (text : Bytes) : Work UInt8 :=
  match text with
  | [] => return 0x0A
  | [b] => return b
  | [0x5C, 0x30] => return 0
  | _ => fail 1 (utf8 "multi-character tab " ++ Quote.plain text)

/-- What the options say. -/
structure Wishes where
  /-- The position of the field of the first file. -/
  first : Option Nat := none
  /-- The position of the field of the second file. -/
  second : Option Nat := none
  /-- The files whose lines are also written if they stand alone. -/
  alone : List Nat := []
  /-- What stands for fields that are missing. -/
  filler : Option Bytes := none
  /-- What separates fields. -/
  separator : Option UInt8 := none
  /-- The fields that are written. -/
  items : Option (List Item) := none
  /-- As many fields are written as the first lines have. -/
  uniform : Bool := false

namespace Wishes

/-- The position of a field that is asked for; it cannot be asked for two different ones. -/
def position (old : Option Nat) (new : Nat) : Work (Option Nat) :=
  match old with
  | some n =>
    if n = new then return some n
    else fail 1 (utf8 s!"incompatible join fields {n - 1}, {new - 1}")
  | none => return some new

/-- Adds what an option says. -/
def add (w : Wishes) (g : Given) : Work Wishes := do
  let value := g.value.getD []
  match g.key with
  | "1" => return { w with first := ← position w.first (← positionOf value) }
  | "2" => return { w with second := ← position w.second (← positionOf value) }
  | "j" =>
    let n ← positionOf value
    return { w with first := ← position w.first n, second := ← position w.second n }
  | "e" =>
    if w.filler.any (· ≠ value) then
      fail 1 (utf8 "conflicting empty-field replacement strings")
    return { w with filler := some value }
  | "o" =>
    if value = utf8 "auto" then return { w with uniform := true }
    let items ← ((piecesOf 0x2C value).flatMap (piecesOf 0x20)).mapM itemOf
    return { w with items := some (w.items.getD [] ++ items) }
  | "t" =>
    let b ← separatorOf value
    if w.separator.any (· ≠ b) then fail 1 (utf8 "incompatible tabs")
    return { w with separator := some b }
  | _ =>
    if g.key = "a" ∨ g.key = "v" then
      let file ← fileOf value
      return { w with alone := file :: w.alone }
    return w

end Wishes

end Relation

/-- Writes the lines that two files have in common, by a field. -/
def join (args : List Bytes) : Work Unit := do
  let f ← Options.read [.valued "a" "", .valued "e" "", .flag "i" "ignore-case", .valued "1" "",
    .valued "2" "", .valued "j" "", .valued "o" "", .valued "t" "", .valued "v" "",
    .flag "z" "zero-terminated", .flag "" "check-order", .flag "" "nocheck-order",
    .flag "" "header"] true 1 args
  let w ← f.given.foldlM Relation.Wishes.add {}
  let (one, two) ← match f.operands with
    | [] => missingOperand 1
    | [_] => misused 1 (utf8 "missing operand after " ++ Quote.plain (args.getLastD []))
    | [a, b] => pure (a, b)
    | _ :: _ :: extra :: _ => extraOperand 1 extra
  if isInput one ∧ isInput two then fail 1 (utf8 "both files cannot be standard input")
  let ending : UInt8 := if f.has "z" then 0 else 0x0A
  let m : Relation.Manner :=
    { separator := w.separator.filter (· ≠ 0x0A), undivided := w.separator = some 0x0A
      ending := ending, firstKey := w.first.getD 1, secondKey := w.second.getD 1
      folds := f.has "i", filler := w.filler.getD [], items := w.items, pairs := !f.has "v"
      firstAlone := w.alone.contains 1, secondAlone := w.alone.contains 2
      checks := (f.last? ["check-order", "nocheck-order"]).map (· = "check-order") }
  let openFor : Bytes → Work Nat := fun name => do
    match ← openInput name with
    | .ok fd => return fd
    | .error e => fail 1 (Quote.name name ++ utf8 (": " ++ e.libraryText))
  let fdOne ← openFor one
  let fdTwo ← openFor two
  let side : Bytes → Nat → Nat → Work Relation.Side := fun name key fd => do
    let (text, s) ← (Source.ofOpen fd).rest
    match s.failure with
    | some e => fail 1 (utf8 ("read error: " ++ e.libraryText))
    | none =>
      let rows := (linesOf ending text).map fun l => ⟨l.bytes, m.fieldsOf l.bytes⟩
      return ⟨name, key, rows, none, 0, false⟩
  let x ← side one m.firstKey fdOne
  let y ← side two m.secondKey fdTwo
  let counts := fun (s : Relation.Side) => (s.rows.head?.map (·.fields.length)).getD 0
  let others := fun (n key : Nat) => ((List.range n).map (· + 1)).filter (· ≠ key)
  let m := if w.uniform then
      { m with items := some (.common :: (others (counts x) m.firstKey).map .first ++
          (others (counts y) m.secondKey).map .second) }
    else m
  let (a, x) ← Relation.next m false x
  let (b, y) ← Relation.next m false y
  let fuel := x.rows.length + y.rows.length + 3
  let (x, y) ←
    if f.has "header" ∧ (a.isSome ∨ b.isSome) then do
      m.write a b
      let (a, x) ← Relation.next m false { x with last := none }
      let (b, y) ← Relation.next m false { y with last := none }
      Relation.join m fuel false a b x y
    else Relation.join m fuel false a b x y
  if x.blamed ∨ y.blamed then fail 1 (utf8 "input is not in sorted order")

end CommandShell.Tool
