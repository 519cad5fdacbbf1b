import CommandShell.Text.RegexSyntax
import CommandShell.Tool.Input
import CommandShell.Tool.Words

/-!
# Replacing bytes

Bytes of the input are replaced by others, removed, or written once where they are repeated. The
bytes are given by two texts, in which ranges and classes of bytes can be named. What the first text
names is replaced by what stands at the same place in the second one.
-/

namespace CommandShell.Tool

open Work

namespace Alphabet

/-- A byte of a text, and whether it has no meaning of its own. -/
abbrev Letter : Type := UInt8 × Bool

/-- A part of a text that names bytes. -/
inductive Item where
  /-- A byte. -/
  | byte (b : UInt8)
  /-- The bytes from one to another. -/
  | range (first last : UInt8)
  /-- The bytes of a class, by its name. -/
  | group (name : String)
  /-- The bytes that count as the same as one. -/
  | same (b : UInt8)
  /-- A byte so many times; without a number as often as necessary. -/
  | times (b : UInt8) (count : Option Nat)
deriving DecidableEq

/-- The bytes of a text without backslashes, and warnings. -/
def lettersOf : Nat → Bytes → List Letter × List Bytes
  | 0, _ => ([], [])
  | fuel + 1, text =>
    match text with
    | [] => ([], [])
    | [0x5C] =>
      ([(0x5C, true)],
        [utf8 "warning: an unescaped backslash at end of string is not portable"])
    | 0x5C :: b :: rest =>
      let go := fun (x : UInt8) (rest : Bytes) (warnings : List Bytes) =>
        let (letters, more) := lettersOf fuel rest
        ((x, true) :: letters, warnings ++ more)
      match b with
      | 0x61 => go 0x07 rest []
      | 0x62 => go 0x08 rest []
      | 0x66 => go 0x0C rest []
      | 0x6E => go 0x0A rest []
      | 0x72 => go 0x0D rest []
      | 0x74 => go 0x09 rest []
      | 0x76 => go 0x0B rest []
      | _ =>
        let digits := ((b :: rest).take 3).takeWhile isOctal
        if digits = [] then go b rest []
        else
          let value : Bytes → Nat := fun ds => ds.foldl (fun n d => n * 8 + (d.toNat - 0x30)) 0
          if 255 < value digits then
            let short := digits.take 2
            go (value short).toUInt8 (rest.drop 1)
              [utf8 "warning: the ambiguous octal escape \\" ++ digits ++
                utf8 " is being\n\tinterpreted as the 2-byte sequence \\0" ++ short ++ utf8 ", " ++
                digits.drop 2]
          else go (value digits).toUInt8 (rest.drop (digits.length - 1)) []
    | b :: rest =>
      let (letters, warnings) := lettersOf fuel rest
      ((b, false) :: letters, warnings)

/-- Whether a letter is a byte with its meaning. -/
def isMark (b : UInt8) (l : Letter) : Bool :=
  l.1 = b && !l.2

/-- The bytes of letters. -/
def bytesOf (letters : List Letter) : Bytes :=
  letters.map (·.1)

/-- Bytes as they are shown in a complaint. -/
def shown (bytes : Bytes) : Bytes :=
  bytes.flatMap fun b =>
    if b = 0x5C then [b, b] else if Quote.isShown b then [b] else Quote.escaped b

/-- What stands in front of two marks, and what follows them. -/
def upTo (mark : UInt8) : List Letter → Option (List Letter × List Letter)
  | a :: b :: rest =>
    if isMark mark a ∧ isMark 0x5D b then some ([], rest)
    else (upTo mark (b :: rest)).map fun r => (a :: r.1, r.2)
  | _ => none

/-- A byte with a number of times, and the rest. -/
def repeated (letters : List Letter) : Except Bytes (Option (Item × List Letter)) :=
  match letters with
  | c :: star :: rest =>
    if !isMark 0x2A star then .ok none
    else
      let body := rest.takeWhile fun l => !l.2 && l.1 ≠ 0x5D
      match rest.drop body.length with
      | (0x5D, false) :: rest =>
        let digits := bytesOf body
        if digits = [] then .ok (some (.times c.1 none, rest))
        else
          let base := if digits.head? = some 0x30 then 8 else 10
          let isDigit := fun (d : UInt8) => 0x30 ≤ d && d.toNat < 0x30 + base
          if digits.all isDigit then
            let n := digits.foldl (fun n d => n * base + (d.toNat - 0x30)) 0
            .ok (some (.times c.1 (if n = 0 then none else some n), rest))
          else
            .error (utf8 "invalid repeat count " ++ Quote.plain digits ++
              utf8 " in [c*n] construct")
      | _ => .ok none
  | _ => .ok none

/-- A class or a byte with those that count as the same, between marks. -/
def named (mark : UInt8) (inner : List Letter) : Except Bytes Item :=
  let bytes := bytesOf inner
  if mark = 0x3A then
    match Text.Regex.classes.find? fun c => utf8 c.1 = bytes with
    | some c => .ok (.group c.1)
    | none =>
      if bytes = [] then .error (utf8 "missing character class name '[::]'")
      else .error (utf8 "invalid character class " ++ Quote.plain bytes)
  else
    match bytes with
    | [] => .error (utf8 "missing equivalence class character '[==]'")
    | [b] => .ok (.same b)
    | _ =>
      .error (shown bytes ++ utf8 ": equivalence class operand must be a single character")

/-- The items that letters describe. -/
def itemsOf : Nat → List Letter → Except Bytes (List Item)
  | 0, _ => .ok []
  | fuel + 1, letters =>
    match letters with
    | a :: b :: c :: rest => do
      let plain : Except Bytes (List Item) :=
        if isMark 0x2D b then
          if a.1 ≤ c.1 then (itemsOf fuel rest).map (.range a.1 c.1 :: ·)
          else
            .error (utf8 "range-endpoints of '" ++ shown [a.1] ++ 0x2D :: shown [c.1] ++
              utf8 "' are in reverse collating sequence order")
        else (itemsOf fuel (b :: c :: rest)).map (.byte a.1 :: ·)
      if !isMark 0x5B a then plain
      else
        let found : Option (List Letter × List Letter) :=
          if isMark 0x3A b ∨ isMark 0x3D b then upTo b.1 (c :: rest) else none
        let item : Except Bytes (Option (Item × List Letter)) :=
          match found with
          | some (inner, after) =>
            match named b.1 inner, repeated (b :: c :: rest) with
            | .ok i, _ => .ok (some (i, after))
            | .error _, .ok (some r) => .ok (some r)
            | .error e, _ => .error e
          | none => repeated (b :: c :: rest)
        match ← item with
        | some (i, after) => (itemsOf fuel after).map (i :: ·)
        | none => plain
    | _ => .ok (letters.map fun l => .byte l.1)

/-- All bytes. -/
def everyByte : Bytes :=
  (List.range 256).map (·.toUInt8)

/-- The bytes of a class. -/
def members (name : String) : Bytes :=
  let ranges := (Text.Regex.classes.lookup name).getD []
  everyByte.filter fun b => ranges.any fun r => r.1 ≤ b && b ≤ r.2

/-- The bytes of an item; one that is repeated as often as necessary is not there. -/
def Item.bytes : Item → Bytes
  | byte b => [b]
  | range first last => everyByte.filter fun b => first ≤ b && b ≤ last
  | group name => members name
  | same b => [b]
  | times b count => List.replicate (count.getD 0) b

/-- The number of bytes of items. -/
def sizeOf (items : List Item) : Nat :=
  sumOf (items.map fun i => i.bytes.length)

/-- Whether an item is the class of letters in upper or lower case. -/
def Item.isCase : Item → Bool
  | group name => name = "upper" || name = "lower"
  | _ => false

/-- A byte at a place of a text, with the class that begins there if that is one of letters in upper
or lower case. -/
abbrev Slot : Type := UInt8 × Option String

/-- The places of items. -/
def slots (items : List Item) : List Slot :=
  items.flatMap fun i =>
    match i, i.bytes with
    | .group name, b :: rest =>
      if i.isCase then (b, some name) :: rest.map fun b => (b, none)
      else (b :: rest).map fun b => (b, none)
    | _, bytes => bytes.map fun b => (b, none)

/-- The number of letters in upper or lower case. -/
def caseSize : Nat := 26

/-- What replaces bytes, by the places of two texts. Classes of letters must stand at the same
place. -/
def pairs : Nat → List Slot → List Slot → Except Bytes (List (UInt8 × UInt8))
  | 0, _, _ => .ok []
  | fuel + 1, xs, ys =>
    match xs, ys with
    | x :: xs, y :: ys =>
      match x.2, y.2 with
      | _, none => (pairs fuel xs ys).map ((x.1, y.1) :: ·)
      | none, some _ => .error (utf8 "misaligned [:upper:] and/or [:lower:] construct")
      | some m, some n =>
        let these := if m = n then [] else (members m).zip (members n)
        (pairs fuel (xs.drop (caseSize - 1)) (ys.drop (caseSize - 1))).map (these ++ ·)
    | _, _ => .ok []

/-- The second text, with what is necessary to make it as long as the first one. -/
def extended (size : Nat) (truncates : Bool) (items : List Item) : Except Bytes (List Item) :=
  let own := sizeOf items
  let endless := items.any fun i => match i with
    | .times _ none => true
    | _ => false
  if endless then
    .ok (items.map fun i => match i with
      | .times b none => .times b (some (size - own))
      | _ => i)
  else if truncates ∨ size ≤ own then .ok items
  else
    match items.getLast? with
    | none => .error (utf8 "when not truncating set1, string2 must be non-empty")
    | some (.group _) =>
      .error (utf8 ("when translating with string1 longer than string2,\n" ++
        "the latter string must not end with a character class"))
    | some i =>
      match i.bytes.getLast? with
      | some b => .ok (items ++ [.times b (some (size - own))])
      | none => .error (utf8 "when not truncating set1, string2 must be non-empty")

/-- What is done with the input. -/
structure Treatment where
  /-- What a byte becomes, if it is not removed. -/
  apply : UInt8 → Option UInt8
  /-- Whether a byte is written once where it is repeated. -/
  squeezes : UInt8 → Bool

/-- Treats bytes; the last one that was written in front of them is known. -/
def Treatment.run (t : Treatment) (bytes : Bytes) (last : Option UInt8) : Bytes × Option UInt8 :=
  let (out, last) := bytes.foldl (fun (out, last) b =>
    match t.apply b with
    | none => (out, last)
    | some x => if t.squeezes x ∧ last = some x then (out, last) else (x :: out, some x))
    (([] : Bytes), last)
  (out.reverse, last)

/-- Treats the input. -/
def Treatment.copy (t : Treatment) : Nat → Source → Option UInt8 → Work Unit
  | 0, _, _ => return ()
  | fuel + 1, s, last => do
    let (bytes, s) ← s.chunk
    if bytes = [] then
      match s.failure with
      | some e => fail 1 (utf8 ("read error: " ++ e.libraryText))
      | none => return ()
    else
      let (out, last) := t.run bytes last
      put out
      t.copy fuel s last

/-- How many items of a kind there are that are repeated as often as necessary. -/
def endless (items : List Item) : Nat :=
  items.countP fun i => match i with
    | .times _ none => true
    | _ => false

/-- What replaces bytes, or what is wrong with the texts. The bytes of the first text may be those
that it does not name. -/
def replacements (complement truncates : Bool) (one two : List Item) :
    Except Bytes (List (UInt8 × UInt8) × Bytes) := do
  let named := one.flatMap Item.bytes
  let first := if complement then everyByte.filter fun b => !named.contains b else named
  let isOther : Item → Bool := fun i => match i with
    | .group _ => !i.isCase
    | _ => false
  let isSame : Item → Bool := fun i => match i with
    | .same _ => true
    | _ => false
  let isGroup : Item → Bool := fun i => match i with
    | .group _ => true
    | _ => false
  if 1 < endless two then
    .error (utf8 "only one [c*] repeat construct may appear in string2")
  else if two.any isSame then
    .error (utf8 "[=c=] expressions may not appear in string2 when translating")
  else if two.any isOther then
    .error (utf8 ("when translating, the only character classes that may appear in\n" ++
      "string2 are 'upper' and 'lower'"))
  else
    let align := fun (items : List Item) =>
      if complement then Except.ok (first.zip (items.flatMap Item.bytes))
      else pairs (first.length + 1) (slots one) (slots items)
    let _ ← align two
    let second ← extended first.length truncates two
    let bytes := second.flatMap Item.bytes
    if complement ∧ one.any isGroup ∧
        !(bytes.length = first.length ∧ bytes.all fun b => bytes.head? = some b) then
      .error (utf8 ("when translating with complemented character classes,\n" ++
        "string2 must map all characters in the domain to one"))
    else
      let table ← align second
      .ok (table, bytes)

/-- The items of a text. -/
def parse (text : Bytes) : Work (List Item) := do
  let (letters, warnings) := lettersOf (text.length + 1) text
  for w in warnings do
    say w
  match itemsOf (letters.length + 1) letters with
  | .ok items => return items
  | .error e => fail 1 e

end Alphabet

open Alphabet

/-- Replaces, removes or squeezes bytes of the input. -/
def tr (args : List Bytes) : Work Unit := do
  let f ← Options.read [.flag "c" "complement", .flag "C" "", .flag "d" "delete",
    .flag "s" "squeeze-repeats", .flag "t" "truncate-set1"] false 1 args
  let complement := f.has "c" || f.has "C"
  let deletes := f.has "d"
  let squeezes := f.has "s"
  let least := if deletes = squeezes then 2 else 1
  let most := if deletes ∧ !squeezes then 1 else 2
  let count := f.operands.length
  if count < least then
    match f.operands.getLast? with
    | none => say (utf8 "missing operand")
    | some last =>
      say (utf8 "missing operand after " ++ Quote.plain last)
      emit (utf8 (if squeezes then
        "Two strings must be given when both deleting and squeezing repeats.\n"
        else "Two strings must be given when translating.\n"))
    refer 1
  if most < count then
    say (utf8 "extra operand " ++ Quote.plain ((f.operands[most]?).getD []))
    if count = 2 then
      emit (utf8 "Only one string may be given when deleting without squeezing repeats.\n")
    refer 1
  let one ← parse (f.operands.headD [])
  let two ← f.operands[1]?.mapM parse
  if 0 < endless one then
    fail 1 (utf8 "the [c*] repeat construct may not appear in string1")
  let named := one.flatMap Item.bytes
  let inFirst := fun (b : UInt8) => named.contains b != complement
  let t : Treatment ← match two with
    | none =>
      if deletes then pure ⟨fun b => if inFirst b then none else some b, fun _ => false⟩
      else pure ⟨some, inFirst⟩
    | some two =>
      if deletes then do
        if 0 < endless two then
          fail 1 (utf8 "the [c*] construct may appear in string2 only when translating")
        let second := two.flatMap Item.bytes
        pure ⟨fun b => if inFirst b then none else some b, second.contains⟩
      else
        match replacements complement (f.has "t") one two with
        | .error e => fail 1 e
        | .ok (table, second) =>
          let final := table.reverse
          pure ⟨fun b => some ((final.lookup b).getD b), fun b => squeezes && second.contains b⟩
  t.copy Source.portions (.ofOpen 0) none

end CommandShell.Tool
