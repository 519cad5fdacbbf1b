import CommandShell.Text.Regex

/-!
# How regular expressions are written

There are two ways to write a regular expression: in the basic one the marks for parts, bounds and
alternatives have a backslash in front, in the extended one they have none. A text is first cut into
marks, since what a byte means depends on what stands next to it.
-/

namespace CommandShell.Text.Regex

/-- What is wrong with the text of an expression. -/
inductive Fault where
  | trailingBackslash | badReference | openBracket | openParen | openBrace | badBounds | badRange
  | nothingToRepeat | closedParen | badClass | bareClass | badSymbol | tooGreat | incomplete
deriving DecidableEq

namespace Fault

/-- What is said about a fault. -/
def text : Fault → String
  | trailingBackslash => "Trailing backslash"
  | badReference => "Invalid back reference"
  | openBracket => "Unmatched [, [^, [:, [., or [="
  | openParen => "Unmatched ( or \\("
  | openBrace => "Unmatched \\\x7b"
  | badBounds => "Invalid content of \\\x7b\\\x7d"
  | badRange => "Invalid range end"
  | nothingToRepeat => "Invalid preceding regular expression"
  | closedParen => "Unmatched ) or \\)"
  | badClass => "Invalid character class name"
  | bareClass => "character class syntax is [[:space:]], not [:space:]"
  | badSymbol => "Invalid collation character"
  | tooGreat => "Regular expression too big"
  | incomplete => "Invalid regular expression"

end Fault

/-- In which way an expression is written. -/
structure Dialect where
  /-- It is the extended way. -/
  extended : Bool
  /-- What cannot be repeated must not be, and what is closed must have been opened. -/
  strict : Bool
  /-- A class without brackets around it is taken for a mistake. -/
  wary : Bool
  /-- Letters and marks after a backslash have no meaning that only some tools give them, and what
  is closed need not have been opened. -/
  common : Bool

/-- The way in which most tools read expressions. -/
def Dialect.basic : Dialect :=
  ⟨false, false, false, false⟩

/-- A mark of an expression. -/
inductive Mark where
  /-- An expression on its own. -/
  | atom (r : Regex)
  /-- So many times, at least and at most. -/
  | bounds (least : Nat) (most : Option Nat)
  | opening | closing | bar

/-- The classes of bytes with their names. -/
def classes : List (String × List (UInt8 × UInt8)) :=
  [("alpha", [(0x41, 0x5A), (0x61, 0x7A)]),
   ("digit", [(0x30, 0x39)]),
   ("alnum", [(0x30, 0x39), (0x41, 0x5A), (0x61, 0x7A)]),
   ("upper", [(0x41, 0x5A)]),
   ("lower", [(0x61, 0x7A)]),
   ("space", [(0x09, 0x0D), (0x20, 0x20)]),
   ("blank", [(0x09, 0x09), (0x20, 0x20)]),
   ("punct", [(0x21, 0x2F), (0x3A, 0x40), (0x5B, 0x60), (0x7B, 0x7E)]),
   ("print", [(0x20, 0x7E)]),
   ("graph", [(0x21, 0x7E)]),
   ("cntrl", [(0x00, 0x1F), (0x7F, 0x7F)]),
   ("xdigit", [(0x30, 0x39), (0x41, 0x46), (0x61, 0x66)])]

/-- The bytes of words. -/
def wordRanges : List (UInt8 × UInt8) :=
  [(0x30, 0x39), (0x41, 0x5A), (0x5F, 0x5F), (0x61, 0x7A)]

/-- The bytes of white space. -/
def spaceRanges : List (UInt8 × UInt8) :=
  [(0x09, 0x0D), (0x20, 0x20)]

/-- What stands up to a byte and a closing bracket, and what follows them. -/
def upTo (mark : UInt8) : Bytes → Bytes → Option (Bytes × Bytes)
  | [], _ => none
  | b :: rest, done =>
    match rest with
    | 0x5D :: more => if b = mark then some (done.reverse, more) else upTo mark rest (b :: done)
    | _ => upTo mark rest (b :: done)

/-- A single byte among those between brackets, and what follows it. -/
def member (text : Bytes) : Except Fault (UInt8 × Bytes) :=
  match text with
  | [] => .error .openBracket
  | 0x5B :: 0x2E :: rest =>
    match upTo 0x2E rest [] with
    | some ([b], rest) => .ok (b, rest)
    | some _ => .error .badSymbol
    | none => .error .openBracket
  | 0x5B :: 0x3D :: rest =>
    match upTo 0x3D rest [] with
    | some ([b], rest) => .ok (b, rest)
    | some _ => .error .badSymbol
    | none => .error .openBracket
  | b :: rest => .ok (b, rest)

/-- The bytes between brackets, from the first on, and what follows the closing bracket. -/
def members : Nat → Bool → Bytes → List (UInt8 × UInt8) →
    Except Fault (List (UInt8 × UInt8) × Bytes)
  | 0, _, _, _ => .error .openBracket
  | fuel + 1, first, text, done =>
    match text with
    | [] => .error .openBracket
    | 0x5B :: 0x3A :: rest =>
      match upTo 0x3A rest [] with
      | none => .error .openBracket
      | some (name, rest) =>
        match classes.find? fun c => utf8 c.1 = name with
        | some c => members fuel false rest (done ++ c.2)
        | none => .error .badClass
    | b :: rest =>
      if b = 0x5D ∧ !first then .ok (done, rest)
      else
        match member (b :: rest) with
        | .error e => .error e
        | .ok (low, rest) =>
          match rest with
          | 0x2D :: 0x5D :: _ => members fuel false rest (done ++ [(low, low)])
          | 0x2D :: more =>
            match member more with
            | .error e => .error e
            | .ok (high, rest) =>
              if high < low then .error .badRange
              else members fuel false rest (done ++ [(low, high)])
          | _ => members fuel false rest (done ++ [(low, low)])

/-- What stands between brackets, after the opening one, and what follows. -/
def bracket (text : Bytes) : Except Fault (Regex × Bytes) :=
  let (negated, body) := match text with
    | 0x5E :: rest => (true, rest)
    | _ => (false, text)
  if body = [] then .error .incomplete
  else (members (text.length + 1) true body []).map fun r => (.oneOf negated r.1, r.2)

/-- The digits at the front of a text as a number, if there are any, and the rest. -/
def leadingCount (text : Bytes) : Option Nat × Bytes :=
  let digits := text.takeWhile fun b => 0x30 ≤ b && b ≤ 0x39
  (if digits = [] then none else some (digits.foldl (fun n b => n * 10 + (b.toNat - 0x30)) 0),
    text.drop digits.length)

/-- The greatest bound of repetitions. -/
def boundLimit : Nat := 32767

/-- The bounds after an opening brace, and what follows the closing one; or what is wrong, and
whether the text is not even shaped like bounds. -/
def boundsOf (extended : Bool) (text : Bytes) :
    Except (Fault × Bool) (Nat × Option Nat × Bytes) :=
  let (least, rest) := leadingCount text
  let (most, rest, comma) : Option Nat × Bytes × Bool := match rest with
    | 0x2C :: more =>
      let (most, rest) := leadingCount more
      (most, rest, true)
    | _ => (some (least.getD 0), rest, false)
  let ended := match extended, rest with
    | true, 0x7D :: rest => some rest
    | false, 0x5C :: 0x7D :: rest => some rest
    | _, _ => none
  match ended with
  | none => .error (if rest = [] then .openBrace else .badBounds, true)
  | some rest =>
    let low := least.getD 0
    if (least.isNone ∧ !comma) ∨ most.getD low < low then .error (.badBounds, false)
    else if boundLimit < most.getD low then .error (.tooGreat, false)
    else .ok (low, most, rest)

/-- Whether an expression may begin after some marks, the last of them first. -/
def isFresh : List Mark → Bool
  | [] => true
  | .opening :: _ => true
  | .bar :: _ => true
  | _ => false

/-- Whether there is nothing to be repeated after some marks, the last of them first. -/
def isBare (marks : List Mark) : Bool :=
  match marks with
  | .atom (.anchor .lineStart) :: rest => isFresh rest
  | _ => isFresh marks

/-- Whether the last of some marks is a repetition. -/
def isRepeated (marks : List Mark) : Bool :=
  match marks with
  | .bounds _ _ :: _ => true
  | _ => false

/-- What a letter after a backslash stands for, if it is more than itself. -/
def escape? (b : UInt8) : Option Regex :=
  match b with
  | 0x77 => some (.oneOf false wordRanges)
  | 0x57 => some (.oneOf true wordRanges)
  | 0x73 => some (.oneOf false spaceRanges)
  | 0x53 => some (.oneOf true spaceRanges)
  | 0x62 => some (.anchor .wordEdge)
  | 0x42 => some (.anchor .noWordEdge)
  | 0x3C => some (.anchor .wordStart)
  | 0x3E => some (.anchor .wordEnd)
  | 0x60 => some (.anchor .textStart)
  | 0x27 => some (.anchor .textEnd)
  | _ => if 0x31 ≤ b ∧ b ≤ 0x39 then some (.same (b.toNat - 0x30)) else none

/-- Cuts a text into marks, last first. Repetitions of nothing are collected as well. -/
def cut (d : Dialect) : Nat → Bytes → List Mark → List String →
    Except Fault (List Mark × List String)
  | 0, _, marks, idle => .ok (marks, idle)
  | fuel + 1, text, marks, idle =>
    let add := fun (rest : Bytes) (m : Mark) => cut d fuel rest (m :: marks) idle
    let literal := fun (b : UInt8) (rest : Bytes) => add rest (.atom (.byte b))
    let isExtended := fun (extended : Bool) => extended = d.extended
    let pass := fun (name : String) (rest : Bytes) => cut d fuel rest marks (idle ++ [name])
    let twice := d.strict && !d.extended && isRepeated marks
    let times := fun (rest : Bytes) (m : Mark) (b : UInt8) =>
      if twice ∧ b = 0x2A then .error .nothingToRepeat
      else if !isBare marks then add rest m
      else if !d.extended then literal b rest
      else if d.strict then .error .nothingToRepeat
      else pass (String.singleton (Char.ofNat b.toNat)) rest
    let brace := fun (b : UInt8) (rest : Bytes) =>
      match boundsOf d.extended rest with
      | .ok (low, high, after) =>
        if twice then .error .nothingToRepeat
        else if !isBare marks then add after (.bounds low high)
        else if d.strict then .error .nothingToRepeat
        else if d.extended then pass "\x7b...\x7d" after
        else literal b rest
      | .error (e, malformed) =>
        if d.extended ∧ !d.strict ∧ malformed then literal b rest else .error e
    match text with
    | [] => .ok (marks, idle)
    | 0x5C :: rest =>
      match rest with
      | [] => .error .trailingBackslash
      | b :: rest =>
        let mark := fun (m : Mark) => if isExtended false then add rest m else literal b rest
        let isPlain := d.extended || d.common
        match b with
        | 0x28 => mark .opening
        | 0x29 => mark .closing
        | 0x7C => if isPlain then literal b rest else add rest .bar
        | 0x7B => if isExtended true then literal b rest else brace b rest
        | 0x2B => if isPlain then literal b rest else times rest (.bounds 1 none) b
        | 0x3F => if isPlain then literal b rest else times rest (.bounds 0 (some 1)) b
        | _ =>
          match if d.common ∧ (b < 0x31 ∨ 0x39 < b) then none else escape? b with
          | some r => add rest (.atom r)
          | none => literal b rest
    | b :: rest =>
      let mark := fun (m : Mark) => if isExtended true then add rest m else literal b rest
      match b with
      | 0x2E => add rest (.atom .any)
      | 0x5B =>
        match bracket rest with
        | .error e => .error e
        | .ok (r, after) =>
          let inside := rest.take (rest.length - after.length - 1)
          if d.wary ∧ inside.head? = some 0x3A ∧ inside.getLast? = some 0x3A ∧
              2 < inside.length then
            .error .bareClass
          else add after (.atom r)
      | 0x2A => times rest (.bounds 0 none) b
      | 0x5E =>
        if isExtended true ∨ isFresh marks then add rest (.atom (.anchor .lineStart))
        else literal b rest
      | 0x24 =>
        let ends := isExtended true || rest.isEmpty || (utf8 "\\)").isPrefixOf rest ||
          (utf8 "\\|").isPrefixOf rest
        if ends then add rest (.atom (.anchor .lineEnd)) else literal b rest
      | 0x2B => if isExtended true then times rest (.bounds 1 none) b else literal b rest
      | 0x3F => if isExtended true then times rest (.bounds 0 (some 1)) b else literal b rest
      | 0x7B => if isExtended true then brace b rest else literal b rest
      | 0x28 => mark .opening
      | 0x29 => mark .closing
      | 0x7C => mark .bar
      | _ => literal b rest

/-- Marks in which a closing one that closes nothing stands for itself. -/
def closed : Nat → List Mark → List Mark
  | _, [] => []
  | depth, .opening :: rest => .opening :: closed (depth + 1) rest
  | 0, .closing :: rest => .atom (.byte 0x29) :: closed 0 rest
  | depth + 1, .closing :: rest => .closing :: closed depth rest
  | depth, m :: rest => m :: closed depth rest

/-- How far marks have been read. -/
structure Reading where
  /-- The marks that follow. -/
  left : List Mark
  /-- The number of parts so far. -/
  groups : Nat
  /-- The parts that are complete. -/
  closed : List Nat

/-- Reads an expression from marks as far as a closing mark. -/
def read : Nat → Reading → Except Fault (Regex × Reading)
  | 0, r => .ok (.empty, r)
  | fuel + 1, r => alternatives fuel (sequence fuel none r)
where
  /-- Reads alternatives after a first. -/
  alternatives : Nat → Except Fault (Regex × Reading) → Except Fault (Regex × Reading)
    | 0, first => first
    | fuel + 1, first =>
      match first with
      | .error e => .error e
      | .ok (a, r) =>
        match r.left with
        | .bar :: rest =>
          match alternatives fuel (sequence fuel none { r with left := rest }) with
          | .error e => .error e
          | .ok (b, r) => .ok (.either a b, r)
        | _ => .ok (a, r)
  /-- Reads one expression after another, after those that are read. -/
  sequence : Nat → Option Regex → Reading → Except Fault (Regex × Reading)
    | 0, done, r => .ok (done.getD .empty, r)
    | fuel + 1, done, r =>
      let more := fun (a : Regex) (r : Reading) =>
        let (a, left) := repetitions r.left a
        let r := { r with left := left }
        match done with
        | none => sequence fuel (some a) r
        | some d => sequence fuel (some (.then d a)) r
      match r.left with
      | [] => .ok (done.getD .empty, r)
      | .bar :: _ => .ok (done.getD .empty, r)
      | .closing :: _ => .ok (done.getD .empty, r)
      | .bounds _ _ :: rest => sequence fuel done { r with left := rest }
      | .opening :: rest =>
        let number := r.groups + 1
        match alternatives fuel (sequence fuel none { r with left := rest, groups := number }) with
        | .error e => .error e
        | .ok (body, r) =>
          match r.left with
          | .closing :: rest =>
            more (.group number body) { r with left := rest, closed := number :: r.closed }
          | _ => .error .openParen
      | .atom (.same n) :: rest =>
        if r.closed.contains n then more (.same n) { r with left := rest } else .error .badReference
      | .atom a :: rest => more a { r with left := rest }
  /-- Puts repetitions around an expression. -/
  repetitions : List Mark → Regex → Regex × List Mark
    | .bounds least most :: rest, a => repetitions rest (.repeated a least most)
    | left, a => (a, left)

/-- An expression from its text, with the number of its parts and the repetitions of nothing. -/
def parse (d : Dialect) (text : Bytes) : Except Fault (Regex × Nat × List String) :=
  match cut d (text.length + 1) text [] [] with
  | .error e => .error e
  | .ok (marks, idle) =>
    let marks :=
      if d.extended ∧ (!d.strict ∨ d.common) then closed 0 marks.reverse else marks.reverse
    match read (2 * marks.length + 2) ⟨marks, 0, []⟩ with
    | .error e => .error e
    | .ok (r, state) =>
      match state.left with
      | [] => .ok (r, state.groups, idle)
      | _ => .error .closedParen

end CommandShell.Text.Regex
