import CommandShell.Script.Arithmetic

/-!
# Patterns

A pattern describes texts: `?` stands for any byte, `*` for any text, and bytes in square brackets
for any one of them. A bracket that is not closed stands for itself, as does all that is escaped.
Bytes are in the order of signed numbers where a range of them is given.
-/

namespace CommandShell.Script

/-- A byte of a pattern, and whether it stands for itself. -/
abbrev Mark := UInt8 × Bool

namespace Pattern

/-- One of the bytes that a bracket stands for. -/
inductive Member where
  /-- A byte between two. -/
  | range (low high : UInt8)
  /-- A byte of a class. -/
  | class_ (name : Bytes)

/-- What a part of a pattern stands for. -/
inductive Part where
  /-- A byte. -/
  | byte (b : UInt8)
  /-- Any byte. -/
  | one
  /-- Any text. -/
  | many
  /-- A byte that is, or is not, one of some. -/
  | set (inverted : Bool) (members : List Member)

/-- The number that a byte is in the order of signed numbers. -/
def order (b : UInt8) : Int :=
  if b < 0x80 then b.toNat else (b.toNat : Int) - 256

/-- The names of the classes of bytes, with what is in them. -/
def classes : List (String × (UInt8 → Bool)) :=
  let upper := fun (b : UInt8) => 0x41 ≤ b && b ≤ 0x5A
  let lower := fun (b : UInt8) => 0x61 ≤ b && b ≤ 0x7A
  let digit := Word.isDigit
  let alpha := fun b => upper b || lower b
  let graph := fun (b : UInt8) => 0x21 ≤ b && b ≤ 0x7E
  [("alpha", alpha), ("digit", digit), ("alnum", fun b => alpha b || digit b),
   ("upper", upper), ("lower", lower), ("space", Arithmetic.isSpace),
   ("blank", fun b => b = 0x20 || b = 0x09),
   ("cntrl", fun b => b < 0x20 || b = 0x7F), ("graph", graph),
   ("print", fun b => graph b || b = 0x20),
   ("punct", fun b => graph b && !(alpha b || digit b)),
   ("xdigit", Arithmetic.isDigitOf 16)]

/-- The class of a name. -/
def class? (name : Bytes) : Option (UInt8 → Bool) :=
  (classes.find? fun c => utf8 c.1 = name).map (·.2)

/-- Whether a byte is a member. -/
def Member.contains (b : UInt8) : Member → Bool
  | range low high => order low ≤ order b && order b ≤ order high
  | class_ name =>
    match class? name with
    | some f => f b
    | none => false

/-- The class that is named after an opening bracket, and what follows it. -/
def className? (marks : List Mark) : Option (Bytes × List Mark) :=
  match marks with
  | (0x3A, false) :: rest =>
    let name := (rest.takeWhile fun m => m.1 ≠ 0x3A).map (·.1)
    match rest.drop name.length with
    | (0x3A, _) :: (0x5D, _) :: after => if (class? name).isSome then some (name, after) else none
    | _ => none
  | _ => none

/-- A byte without the backslash that may stand in front of it. -/
def literal : List Mark → Option (UInt8 × List Mark)
  | (0x5C, false) :: m :: rest => some (m.1, rest)
  | m :: rest => some (m.1, rest)
  | [] => none

/-- The members of a bracket from the first one on, and what follows the bracket. -/
def members : Nat → Bool → List Mark → List Member → Option (List Member × List Mark)
  | 0, _, _, _ => none
  | fuel + 1, first, marks, done =>
    match marks with
    | [] => none
    | (0x5D, false) :: rest =>
      if first then member fuel marks done else some (done, rest)
    | (0x5B, false) :: rest =>
      match className? rest with
      | some (name, after) => members fuel false after (.class_ name :: done)
      | none => member fuel marks done
    | _ => member fuel marks done
where
  /-- The member that comes next. -/
  member (fuel : Nat) (marks : List Mark) (done : List Member) :
      Option (List Member × List Mark) :=
    match literal marks with
    | none => none
    | some (low, rest) =>
      match rest with
      | (0x2D, false) :: (0x5D, false) :: _ => members fuel false rest (.range low low :: done)
      | (0x2D, false) :: others =>
        match literal others with
        | none => none
        | some (high, rest) => members fuel false rest (.range low high :: done)
      | _ => members fuel false rest (.range low low :: done)

/-- The bracket that begins after an opening bracket, and what follows it. -/
def bracket? (marks : List Mark) : Option (Part × List Mark) :=
  let (inverted, rest) := match marks with
    | (0x21, false) :: rest => (true, rest)
    | _ => (false, marks)
  (members (rest.length + 1) true rest []).map fun (found, after) => (.set inverted found, after)

/-- The parts of a pattern. -/
def partsOf : Nat → List Mark → List Part
  | 0, _ => []
  | _ + 1, [] => []
  | fuel + 1, (b, escaped) :: rest =>
    if escaped then .byte b :: partsOf fuel rest
    else
      match b with
      | 0x3F => .one :: partsOf fuel rest
      | 0x2A => .many :: partsOf fuel rest
      | 0x5C =>
        match rest with
        | [] => [.byte b]
        | (c, _) :: rest => .byte c :: partsOf fuel rest
      | 0x5B =>
        match bracket? rest with
        | some (part, after) => part :: partsOf fuel after
        | none => .byte b :: partsOf fuel rest
      | _ => .byte b :: partsOf fuel rest

/-- The parts of a pattern. -/
def parts (marks : List Mark) : List Part :=
  partsOf (marks.length + 1) marks

/-- Whether a part stands for a byte. -/
def Part.admits (b : UInt8) : Part → Bool
  | .byte c => b = c
  | .one => true
  | .many => true
  | .set inverted members => (members.any (·.contains b)) != inverted

/-- Whether some end of a text, the whole and the empty one among them, has a property. -/
def someEnd (p : Bytes → Bool) : Bytes → Bool
  | [] => p []
  | b :: text => p (b :: text) || someEnd p text

/-- Whether parts together stand for a text. -/
def covers : List Part → Bytes → Bool
  | [], text => text.isEmpty
  | .many :: rest, text => someEnd (covers rest) text
  | part :: rest, text =>
    match text with
    | [] => false
    | b :: text => part.admits b && covers rest text

/-- Whether a pattern describes a text. -/
def describes (marks : List Mark) (text : Bytes) : Bool :=
  covers (parts marks) text

/-- Whether a pattern describes more than one text. -/
def isProper (marks : List Mark) : Bool :=
  (parts marks).any fun
    | .byte _ => false
    | _ => true

/-- How long the shortest, or the longest, beginning of a text is that a pattern describes. -/
def startLength? (marks : List Mark) (longest : Bool) (text : Bytes) : Option Nat :=
  let p := parts marks
  let lengths := List.range (text.length + 1)
  let lengths := if longest then lengths.reverse else lengths
  lengths.find? fun n => covers p (text.take n)

/-- Where the shortest, or the longest, end of a text begins that a pattern describes. -/
def endStart? (marks : List Mark) (longest : Bool) (text : Bytes) : Option Nat :=
  let p := parts marks
  let lengths := List.range (text.length + 1)
  let lengths := if longest then lengths else lengths.reverse
  lengths.find? fun n => covers p (text.drop n)

end Pattern

end CommandShell.Script
