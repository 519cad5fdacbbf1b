import CommandShell.Text.RegexSyntax

/-!
# A richer way to write regular expressions

In this way of writing, a backslash in front of a letter stands for a class of bytes, a place or a
byte, and a question mark after an opening bracket says what kind of part it is: without a number,
with a name, or one that only looks at what is beside a place. A repetition takes as much as it can,
as little as it can, or all it can without giving any of it back. Of the matches that begin at a
place the first that is come to is taken, not the longest.
-/

namespace CommandShell.Text.Regex.Rich

/-- How far a text has been read. -/
structure State where
  /-- What follows. -/
  left : Bytes
  /-- The number of parts so far. -/
  groups : Nat
  /-- The names of parts with their numbers. -/
  names : List (Bytes × Nat)
  /-- Upper and lower case are the same. -/
  folds : Bool
  /-- White space and notes between expressions do not count. -/
  spaced : Bool

/-- The reading of something; the error says what is wrong. -/
abbrev Reader (α : Type) : Type :=
  StateT State (Except String) α

/-- What follows. -/
def left : Reader Bytes := do
  return (← get).left

/-- Goes on with a text. -/
def goOn (rest : Bytes) : Reader Unit :=
  modify fun s => { s with left := rest }

/-- The bytes of digits. -/
def digitRanges : List (UInt8 × UInt8) := [(0x30, 0x39)]

/-- The bytes of blanks. -/
def blankRanges : List (UInt8 × UInt8) := [(0x09, 0x09), (0x20, 0x20), (0xA0, 0xA0)]

/-- The bytes that begin new lines. -/
def breakRanges : List (UInt8 × UInt8) := [(0x0A, 0x0D), (0x85, 0x85)]

/-- The class that a letter after a backslash stands for, and whether what is not in it is meant. -/
def class? (b : UInt8) : Option (Bool × List (UInt8 × UInt8)) :=
  match Char.ofNat b.toNat with
  | 'd' => some (false, digitRanges)
  | 'D' => some (true, digitRanges)
  | 'w' => some (false, wordRanges)
  | 'W' => some (true, wordRanges)
  | 's' => some (false, spaceRanges)
  | 'S' => some (true, spaceRanges)
  | 'h' => some (false, blankRanges)
  | 'H' => some (true, blankRanges)
  | 'v' => some (false, breakRanges)
  | 'V' => some (true, breakRanges)
  | 'N' => some (true, [(0x0A, 0x0A)])
  | 'R' => some (false, breakRanges)
  | _ => none

/-- The classes of bytes that have names of one or two letters. -/
def properties : List (String × List (UInt8 × UInt8)) :=
  [("L", [(0x41, 0x5A), (0x61, 0x7A)]), ("Lu", [(0x41, 0x5A)]), ("Ll", [(0x61, 0x7A)]),
   ("L&", [(0x41, 0x5A), (0x61, 0x7A)]), ("N", [(0x30, 0x39)]), ("Nd", [(0x30, 0x39)]),
   ("P", [(0x21, 0x23), (0x25, 0x2A), (0x2C, 0x2F), (0x3A, 0x3B), (0x3F, 0x40), (0x5B, 0x5D),
      (0x5F, 0x5F), (0x7B, 0x7B), (0x7D, 0x7D)]),
   ("S", [(0x24, 0x24), (0x2B, 0x2B), (0x3C, 0x3E), (0x5E, 0x5E), (0x60, 0x60), (0x7C, 0x7C),
      (0x7E, 0x7E)]),
   ("Z", [(0x20, 0x20)]), ("Zs", [(0x20, 0x20)]), ("C", [(0x00, 0x1F), (0x7F, 0x7F)]),
   ("Any", [(0x00, 0xFF)]), ("Xan", [(0x30, 0x39), (0x41, 0x5A), (0x61, 0x7A)]),
   ("Xsp", spaceRanges), ("Xps", spaceRanges), ("Xwd", wordRanges)]

/-- The class that the name after a letter stands for, and whether what is not in it is meant, with
what follows. -/
def property (b : UInt8) (rest : Bytes) :
    Except String ((Bool × List (UInt8 × UInt8)) × Bytes) :=
  let (name, rest) := match rest with
    | 0x7B :: more =>
      let name := more.takeWhile (· ≠ 0x7D)
      (name, more.drop (name.length + 1))
    | _ => (rest.take 1, rest.drop 1)
  let (turned, name) := match name with
    | 0x5E :: n => (true, n)
    | _ => (false, name)
  match properties.find? fun p => utf8 p.1 = name with
  | some p => .ok ((turned != decide (b = 0x50), p.2), rest)
  | none => .error "unknown property after \\P or \\p"

/-- The place that a letter after a backslash stands for. -/
def place? (b : UInt8) : Option Regex :=
  match Char.ofNat b.toNat with
  | 'b' => some (.anchor .wordEdge)
  | 'B' => some (.anchor .noWordEdge)
  | 'A' => some (.anchor .textStart)
  | 'z' => some (.anchor .textEnd)
  | 'Z' => some (.anchor .textEnd)
  | 'G' => some (.anchor .textStart)
  | 'K' => some .begin
  | _ => none

/-- The value of a digit in base sixteen. -/
def hex? (b : UInt8) : Option Nat :=
  let letter := lower b
  if 0x30 ≤ b ∧ b ≤ 0x39 then some (b.toNat - 0x30)
  else if 0x61 ≤ letter ∧ letter ≤ 0x66 then some (letter.toNat - 0x57) else none

/-- The number that digits of a base spell. -/
def number (base : Nat) (digits : Bytes) : Nat :=
  digits.foldl (fun n b => n * base + (hex? b).getD 0) 0

/-- The byte that a letter after a backslash stands for, with what follows. -/
def byte? (b : UInt8) (rest : Bytes) : Option (UInt8 × Bytes) :=
  let octal := fun (digits rest : Bytes) => (UInt8.ofNat (number 8 digits), rest)
  match Char.ofNat b.toNat with
  | 'n' => some (0x0A, rest)
  | 't' => some (0x09, rest)
  | 'r' => some (0x0D, rest)
  | 'f' => some (0x0C, rest)
  | 'e' => some (0x1B, rest)
  | 'a' => some (0x07, rest)
  | '0' =>
    let digits := (rest.take 2).takeWhile fun d => 0x30 ≤ d && d ≤ 0x37
    some (octal digits (rest.drop digits.length))
  | 'x' =>
    match rest with
    | 0x7B :: more =>
      let digits := more.takeWhile fun d => (hex? d).isSome
      some (UInt8.ofNat (number 16 digits), more.drop (digits.length + 1))
    | _ =>
      let digits := (rest.take 2).takeWhile fun d => (hex? d).isSome
      some (UInt8.ofNat (number 16 digits), rest.drop digits.length)
  | 'c' =>
    match rest with
    | l :: more => some (upper l ^^^ 0x40, more)
    | [] => none
  | _ => none

/-- Whether a byte is a letter or a digit. -/
def isAlphanumeric (b : UInt8) : Bool :=
  isWordByte b && b ≠ 0x5F

/-- Ranges of all bytes that are in none of some others. -/
def complement (ranges : List (UInt8 × UInt8)) : List (UInt8 × UInt8) :=
  ((List.range 256).map UInt8.ofNat).filterMap fun b =>
    if ranges.any fun r => r.1 ≤ b && b ≤ r.2 then none else some (b, b)

/-- What a class that was read is about: the ranges of its bytes. -/
def rangesOf (c : Bool × List (UInt8 × UInt8)) : List (UInt8 × UInt8) :=
  if c.1 then complement c.2 else c.2

/-- A byte between square brackets, or a class, and what follows. -/
def member (text : Bytes) : Except String ((UInt8 ⊕ List (UInt8 × UInt8)) × Bytes) :=
  let unclosed := "missing terminating ] for character class"
  match text with
  | [] => .error unclosed
  | 0x5C :: b :: rest =>
    if b = 0x70 ∨ b = 0x50 then
      (property b rest).map fun r => (.inr (rangesOf r.1), r.2)
    else match class? b, byte? b rest with
    | some c, _ => .ok (.inr (rangesOf c), rest)
    | none, some (x, rest) => .ok (.inl x, rest)
    | none, none =>
      if b = 0x62 then .ok (.inl 0x08, rest)
      else if 0x31 ≤ b ∧ b ≤ 0x37 then
        let digits := ((b :: rest).take 3).takeWhile fun d => 0x30 ≤ d && d ≤ 0x37
        .ok (.inl (UInt8.ofNat (number 8 digits)), (b :: rest).drop digits.length)
      else if isAlphanumeric b then .error "unrecognized character follows \\"
      else .ok (.inl b, rest)
  | 0x5B :: 0x3A :: rest =>
    match upTo 0x3A rest [] with
    | none => .ok (.inl 0x5B, 0x3A :: rest)
    | some (name, after) =>
      let (negated, name) := match name with
        | 0x5E :: n => (true, n)
        | _ => (false, name)
      if name = utf8 "word" then .ok (.inr (rangesOf (negated, wordRanges)), after)
      else
        match classes.find? fun c => utf8 c.1 = name with
        | some c => .ok (.inr (rangesOf (negated, c.2)), after)
        | none => .error "unknown POSIX class name"
  | b :: rest => .ok (.inl b, rest)

/-- The bytes between square brackets, and what follows the closing one. -/
def members : Nat → Bool → Bytes → List (UInt8 × UInt8) →
    Except String (List (UInt8 × UInt8) × Bytes)
  | 0, _, _, _ => .error "missing terminating ] for character class"
  | fuel + 1, first, text, done => do
    match text with
    | 0x5D :: rest =>
      if !first then return (done, rest)
    | _ => pure ()
    match ← member text with
    | (.inr ranges, rest) => members fuel false rest (done ++ ranges)
    | (.inl low, rest) =>
      match rest with
      | 0x2D :: 0x5D :: _ => members fuel false rest (done ++ [(low, low)])
      | 0x2D :: more =>
        match ← member more with
        | (.inl high, rest) =>
          if high < low then throw "range out of order in character class"
          members fuel false rest (done ++ [(low, high)])
        | (.inr ranges, rest) =>
          members fuel false rest (done ++ [(low, low), (0x2D, 0x2D)] ++ ranges)
      | _ => members fuel false rest (done ++ [(low, low)])

/-- The bounds in braces, after the opening one, and what follows the closing one. -/
def bounds? (text : Bytes) : Option (Nat × Option Nat × Bytes) :=
  match leadingCount text with
  | (some least, 0x7D :: rest) => some (least, some least, rest)
  | (some least, 0x2C :: more) =>
    match leadingCount more with
    | (most, 0x7D :: rest) => some (least, most, rest)
    | _ => none
  | _ => none

/-- Reads the repetition that may follow an expression, and puts it around this. -/
def repetition (r : Regex) : Reader (Option Regex) := do
  let text ← left
  let found : Option (Nat × Option Nat × Bytes) := match text with
    | 0x2A :: rest => some (0, none, rest)
    | 0x2B :: rest => some (1, none, rest)
    | 0x3F :: rest => some (0, some 1, rest)
    | 0x7B :: rest => bounds? rest
    | _ => none
  match found with
  | none => return none
  | some (least, most, rest) =>
    if most.any (· < least) then throw "numbers out of order in \x7b\x7d quantifier"
    if boundLimit < max least (most.getD 0) then
      throw "number too big in \x7b\x7d quantifier"
    match rest with
    | 0x3F :: more => do
      goOn more
      return some (.lazily r least most)
    | 0x2B :: more => do
      goOn more
      return some (.firm (.repeated r least most))
    | _ => do
      goOn rest
      return some (.repeated r least most)

/-- Puts all repetitions that follow an expression around it. -/
def repetitions : Nat → Regex → Reader Regex
  | 0, r => return r
  | fuel + 1, r => do
    match ← repetition r with
    | some r => repetitions fuel r
    | none => return r

/-- What a name of a part that was read before stands for. -/
def named (name : Bytes) : Reader Regex := do
  match (← get).names.lookup name with
  | some n => return .same n
  | none => throw "reference to non-existent subpattern"

/-- Reads a name up to a byte that ends it. -/
def nameUpTo (mark : UInt8) : Reader Bytes := do
  let text ← left
  let name := text.takeWhile (· ≠ mark)
  goOn (text.drop (name.length + 1))
  return name

/-- Reads what follows a backslash. -/
def escape : Reader Regex := do
  match ← left with
  | [] => throw "\\ at end of pattern"
  | b :: rest =>
    goOn rest
    match class? b, place? b with
    | some (negated, ranges), _ => return .oneOf negated ranges
    | none, some r => return r
    | none, none =>
      if b = 0x51 then
        let isEnd := fun (n : Nat) => (utf8 "\\E").isPrefixOf (rest.drop n)
        let length := ((List.range rest.length).find? isEnd).getD rest.length
        goOn (rest.drop (length + 2))
        return (rest.take length).foldr (fun c r => .then (.byte c) r) .empty
      else if b = 0x45 then return .empty
      else if b = 0x70 ∨ b = 0x50 then
        match property b rest with
        | .error e => throw e
        | .ok ((negated, ranges), rest) =>
          goOn rest
          return .oneOf negated ranges
      else if b = 0x6B then
        match rest with
        | mark :: more => do
          goOn more
          named (← nameUpTo (if mark = 0x3C then 0x3E else if mark = 0x7B then 0x7D else mark))
        | [] => throw "\\k is not followed by a braced, angle-bracketed, or quoted name"
      else if b = 0x67 then
        let (braced, body) := match rest with
          | 0x7B :: more => (true, more)
          | _ => (false, rest)
        let (back, body) := match body with
          | 0x2D :: more => (true, more)
          | _ => (false, body)
        match leadingCount body with
        | (some n, after) => do
          goOn (if braced then after.drop 1 else after)
          let groups := (← get).groups
          return .same (if back then groups + 1 - n else n)
        | (none, _) =>
          goOn body
          named (← nameUpTo 0x7D)
      else if 0x31 ≤ b ∧ b ≤ 0x39 then
        match leadingCount (b :: rest) with
        | (some n, after) => do
          goOn after
          return .same n
        | (none, _) => return .empty
      else
        match byte? b rest with
        | some (x, rest) => do
          goOn rest
          return .byte x
        | none =>
          if isAlphanumeric b then throw "unrecognized character follows \\"
          else return .byte b

/-- The kind of part that an opening bracket begins. -/
inductive Opening where
  /-- One with a number, and perhaps a name. -/
  | numbered (name : Option Bytes)
  /-- One without. -/
  | plain
  /-- One of which only the preferred match counts. -/
  | firm
  /-- One that looks beside a place. -/
  | beside (ahead wanted : Bool)
  /-- What it says holds from there on. -/
  | setting
  /-- A note. -/
  | note
  /-- What was matched before. -/
  | same (r : Regex)

/-- Reads letters that say how an expression is meant, up to a byte that ends them. The answer is
that byte. -/
def settings : Nat → Bool → Reader UInt8
  | 0, _ => throw "missing closing parenthesis"
  | fuel + 1, value => do
    match ← left with
    | [] => throw "missing closing parenthesis"
    | b :: rest => do
      goOn rest
      match Char.ofNat b.toNat with
      | '-' => settings fuel false
      | 'i' =>
        modify fun s => { s with folds := value }
        settings fuel value
      | 'x' =>
        modify fun s => { s with spaced := value }
        settings fuel value
      | 'm' | 's' | 'n' | 'U' | 'J' => settings fuel value
      | ':' | ')' => return b
      | _ => throw "unrecognized character after (? or (?-"

/-- Reads what kind of part an opening bracket begins. -/
def opening : Reader Opening := do
  match ← left with
  | 0x3F :: rest =>
    let go : Bytes → Opening → Reader Opening := fun rest o => do
      goOn rest
      return o
    match rest with
    | 0x3A :: rest => go rest .plain
    | 0x7C :: rest => go rest .plain
    | 0x3E :: rest => go rest .firm
    | 0x3D :: rest => go rest (.beside true true)
    | 0x21 :: rest => go rest (.beside true false)
    | 0x3C :: 0x3D :: rest => go rest (.beside false true)
    | 0x3C :: 0x21 :: rest => go rest (.beside false false)
    | 0x23 :: rest => go ((rest.dropWhile (· ≠ 0x29)).drop 1) .note
    | 0x3C :: rest => do
      goOn rest
      return .numbered (some (← nameUpTo 0x3E))
    | 0x27 :: rest => do
      goOn rest
      return .numbered (some (← nameUpTo 0x27))
    | 0x50 :: 0x3C :: rest => do
      goOn rest
      return .numbered (some (← nameUpTo 0x3E))
    | 0x50 :: 0x3D :: rest => do
      goOn rest
      return .same (← named (← nameUpTo 0x29))
    | _ => do
      goOn rest
      let ending ← settings (rest.length + 1) true
      return if ending = 0x3A then .plain else .setting
  | _ => return .numbered none

/-- One expression after another. -/
def joined (done : Option Regex) (r : Regex) : Option Regex :=
  some (match done with
    | some d => .then d r
    | none => r)

/-- Reads alternatives, as far as a closing bracket or the end. -/
def alternatives : Nat → Reader Regex
  | 0 => return .empty
  | fuel + 1 => do
    let first ← sequence fuel none
    match ← left with
    | 0x7C :: rest =>
      goOn rest
      let others ← alternatives fuel
      return .either first others
    | _ => return first
where
  /-- Reads one expression after another, after those that are read. -/
  sequence : Nat → Option Regex → Reader Regex
    | 0, done => return done.getD .empty
    | fuel + 1, done => do
      let next : Regex → Reader Regex := fun r => do
        let folds := (← get).folds
        let r ← repetitions 0x10000 r
        sequence fuel (joined done (.folded folds r))
      match ← left with
      | [] => return done.getD .empty
      | b :: rest =>
        let spaced := (← get).spaced
        if spaced ∧ (b = 0x20 ∨ (0x09 ≤ b ∧ b ≤ 0x0D)) then
          goOn rest
          sequence fuel done
        else if spaced ∧ b = 0x23 then
          goOn ((rest.dropWhile (· ≠ 0x0A)).drop 1)
          sequence fuel done
        else
          match Char.ofNat b.toNat with
          | '|' => return done.getD .empty
          | ')' => return done.getD .empty
          | '\\' => do
            goOn rest
            next (← escape)
          | '.' => do
            goOn rest
            next (.oneOf true [(0x0A, 0x0A)])
          | '^' => do
            goOn rest
            next (.anchor .lineStart)
          | '$' => do
            goOn rest
            next (.anchor .lineEnd)
          | '[' => do
            let (negated, body) := match rest with
              | 0x5E :: more => (true, more)
              | _ => (false, rest)
            match members (rest.length + 1) true body [] with
            | .error e => throw e
            | .ok (ranges, rest) =>
              goOn rest
              next (.oneOf negated ranges)
          | '*' | '+' | '?' => throw "quantifier does not follow a repeatable item"
          | '(' => do
            goOn rest
            let before ← get
            let kind ← opening
            match kind with
            | .note => sequence fuel done
            | .same r => next r
            | .setting =>
              let body ← alternatives fuel
              return (joined done body).getD .empty
            | _ =>
              let number := before.groups + 1
              match kind with
              | .numbered name =>
                modify fun s => { s with
                  groups := number, names := (name.toList.map fun n => (n, number)) ++ s.names }
              | _ => pure ()
              let body ← alternatives fuel
              match ← left with
              | 0x29 :: rest => do
                modify fun s =>
                  { s with left := rest, folds := before.folds, spaced := before.spaced }
                next <| match kind with
                  | .numbered _ => .group number body
                  | .firm => .firm body
                  | .beside ahead wanted => .beside ahead wanted body
                  | _ => body
              | _ => throw "missing closing parenthesis"
          | _ =>
            goOn rest
            next (.byte b)

/-- The greatest number of a part that an expression speaks of. -/
def greatestSame : Regex → Nat
  | .same n => n
  | .group _ r => greatestSame r
  | .then a b => max (greatestSame a) (greatestSame b)
  | .either a b => max (greatestSame a) (greatestSame b)
  | .repeated r _ _ => greatestSame r
  | .lazily r _ _ => greatestSame r
  | .firm r => greatestSame r
  | .beside _ _ r => greatestSame r
  | .folded _ r => greatestSame r
  | _ => 0

/-- An expression from its text, or what is wrong with this. -/
def parse (folds : Bool) (text : Bytes) : Except String Regex := do
  let (r, state) ← (alternatives (2 * text.length + 2)).run ⟨text, 0, [], folds, false⟩
  if state.left ≠ [] then throw "unmatched closing parenthesis"
  if state.groups < greatestSame r then throw "reference to non-existent subpattern"
  return r

end CommandShell.Text.Regex.Rich
