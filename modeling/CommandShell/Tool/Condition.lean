import CommandShell.Tool.Number

/-!
# Conditions

The tool `test`, also called `[`, looks at texts, numbers and files and answers by its status. Few
words are read by their number; more of them are read from left to right.
-/

namespace CommandShell.Tool

namespace Condition

/-- Reading a condition: how many words are passed. -/
abbrev Reading (α : Type) : Type :=
  StateT Nat (ExceptT Unit (StateT Desk Program)) α

/-- The words of a condition are wrong. -/
def senseless {α : Type} (what : Bytes) : Reading α :=
  StateT.lift (Work.fail 2 what)

/-- The operators that stand between two operands. -/
def operators : List String :=
  ["=", "==", "!=", "-nt", "-ot", "-ef", "-eq", "-ne", "-lt", "-le", "-gt", "-ge"]

/-- The operators that compare numbers. -/
def numeric : List String :=
  ["-eq", "-ne", "-lt", "-le", "-gt", "-ge"]

/-- The operator that a word is. -/
def operator? (word : Option Bytes) : Option String :=
  word.bind fun w => operators.find? fun o => utf8 o = w

/-- Whether a word is an operator in front of an operand. -/
def isUnary (word : Bytes) : Bool :=
  match word with
  | [0x2D, _] => true
  | _ => false

/-- The number that a word is. -/
def number? (word : Bytes) : Option Int :=
  let isSpace := fun b : UInt8 => b = 0x20 || (0x09 ≤ b && b ≤ 0x0D)
  let body := word.dropWhile isSpace
  let (negative, body) := match body with
    | 0x2D :: rest => (true, rest)
    | 0x2B :: rest => (false, rest)
    | _ => (false, body)
  let digits := body.takeWhile Amount.isDigit
  if digits ≠ [] ∧ (body.drop digits.length).all isSpace then
    some (if negative then -(Amount.count digits : Int) else Amount.count digits)
  else none

variable (words : List Bytes)

/-- The word at a place. -/
def word (n : Nat) : Bytes :=
  (words[n]?).getD []

/-- The words end where they must not. -/
def beyond {α : Type} : Reading α :=
  senseless (utf8 "missing argument after " ++ Quote.plain (words.getLast?.getD []))

/-- Passes a word; another has to follow if asked for. -/
def advance (more : Bool) : Reading Unit := do
  modify (· + 1)
  if more ∧ words.length ≤ (← get) then beyond words

/-- The number that a word is, which has to be one. -/
def number (w : Bytes) : Reading Int :=
  match number? w with
  | some n => return n
  | none => senseless (utf8 "invalid integer " ++ Quote.plain w)

/-- The facts about a file. -/
def factsOf? (path : Bytes) (through : Bool) : Reading (Option Facts) := do
  match ← StateT.lift (Work.call (.facts path through)) with
  | .ok f => return some f
  | .error _ => return none

/-- Whether what an operator says of its operand holds. -/
def unaryHolds (letter : UInt8) (operand : Bytes) : Reading Bool := do
  let fact : Bool → (Facts → Bool) → Reading Bool := fun through p => do
    return ((← factsOf? operand through).map p).getD false
  match letter with
  | 0x65 => fact true fun _ => true
  | 0x72 => fact true fun _ => true
  | 0x77 => fact true fun _ => true
  | 0x78 => fact true fun f => f.kind = .directory || f.mode &&& 0o111 ≠ 0
  | 0x4F => fact true fun _ => true
  | 0x47 => fact true fun _ => true
  | 0x4E => return false
  | 0x66 => fact true (·.kind = .file)
  | 0x64 => fact true (·.kind = .directory)
  | 0x73 => fact true fun f => f.size ≠ 0
  | 0x53 => return false
  | 0x63 => fact true (·.kind = .device)
  | 0x62 => return false
  | 0x70 => fact true (·.kind = .pipe)
  | 0x4C => fact false (·.kind = .link)
  | 0x68 => fact false (·.kind = .link)
  | 0x75 => fact true fun f => f.mode &&& 0o4000 ≠ 0
  | 0x67 => fact true fun f => f.mode &&& 0o2000 ≠ 0
  | 0x6B => fact true fun f => f.mode &&& 0o1000 ≠ 0
  | 0x74 =>
    let _ ← number operand
    return false
  | 0x6E => return operand ≠ []
  | _ => return operand = []

/-- Reads an operator and its operand. -/
def unary : Reading Bool := do
  let w := word words (← get)
  let letter := (w[1]?).getD 0
  if !(utf8 "erwxOGNfdsScbpLhugktnz").contains letter then
    senseless (Quote.plain w ++ utf8 ": unary operator expected")
  advance words true
  let operand := word words (← get)
  advance words false
  unaryHolds letter operand

/-- Whether a file was changed after another. One that is there counts as newer than one that is
not. -/
def isNewer (a b : Option Facts) : Bool :=
  match a, b with
  | some x, some y => decide (y.modified < x.modified)
  | some _, none => true
  | none, _ => false

/-- Whether what an operator says of two operands holds. -/
def binaryHolds (operator : String) (a b : Bytes) (aLength bLength : Bool) : Reading Bool := do
  if numeric.contains operator then
    let x ← if aLength then pure (a.length : Int) else number a
    let y ← if bLength then pure (b.length : Int) else number b
    return match operator with
      | "-eq" => x = y
      | "-ne" => x ≠ y
      | "-lt" => x < y
      | "-le" => x ≤ y
      | "-gt" => y < x
      | _ => y ≤ x
  else
    match operator with
    | "!=" => return a ≠ b
    | "-nt" => return isNewer (← factsOf? a true) (← factsOf? b true)
    | "-ot" => return isNewer (← factsOf? b true) (← factsOf? a true)
    | "-ef" =>
      match ← factsOf? a true, ← factsOf? b true with
      | some x, some y => return x.location = y.location
      | _, _ => return false
    | _ => return a = b

/-- Reads an operator between two operands; each of them may be the length of a word. -/
def binary (operator : String) (aLength : Bool) : Reading Bool := do
  if aLength then advance words false
  let p ← get
  let bLength := numeric.contains operator && word words (p + 2) = utf8 "-l" &&
    decide (p + 3 < words.length)
  set (p + 3 + if bLength then 1 else 0)
  binaryHolds operator (word words p) (word words (p + 2 + if bLength then 1 else 0)) aLength
    bLength

/-- Reads a word that is true if it is not empty. -/
def one : Reading Bool := do
  let w := word words (← get)
  advance words false
  return w ≠ []

/-- Reads two words. -/
def two : Reading Bool := do
  let w := word words (← get)
  if w = utf8 "!" then
    advance words false
    return !(← one words)
  else if isUnary w then unary words
  else beyond words

/-- What is to be read. -/
inductive Goal where
  /-- So many words, by their number. -/
  | words (count : Nat)
  /-- Alternatives. -/
  | either
  /-- Conditions that all have to hold. -/
  | both
  /-- A condition. -/
  | term

/-- Whether what is read holds. -/
def holds : Nat → Goal → Reading Bool
  | 0, _ => return false
  | fuel + 1, goal => do
    let p ← get
    let w := word words p
    match goal with
    | .words 1 => one words
    | .words 2 => two words
    | .words 3 =>
      let middle := word words (p + 1)
      match operator? (words[p + 1]?) with
      | some o => binary words o false
      | none =>
        if w = utf8 "!" then
          advance words true
          return !(← two words)
        else if w = utf8 "(" ∧ word words (p + 2) = utf8 ")" then
          advance words false
          let a ← one words
          advance words false
          return a
        else if middle = utf8 "-a" ∨ middle = utf8 "-o" then holds fuel .either
        else senseless (Quote.plain middle ++ utf8 ": binary operator expected")
    | .words n =>
      if n = 4 ∧ w = utf8 "!" then
        advance words true
        return !(← holds fuel (.words 3))
      else if n = 4 ∧ w = utf8 "(" ∧ word words (p + 3) = utf8 ")" then
        advance words false
        let a ← two words
        advance words false
        return a
      else holds fuel .either
    | .either =>
      let a ← holds fuel .both
      if words[← get]? = some (utf8 "-o") then
        advance words false
        let b ← holds fuel .either
        return a || b
      else return a
    | .both =>
      let a ← holds fuel .term
      if words[← get]? = some (utf8 "-a") then
        advance words false
        let b ← holds fuel .both
        return a && b
      else return a
    | .term =>
      if words.length ≤ p then beyond words
      if w = utf8 "!" then
        advance words true
        return !(← holds fuel .term)
      else if w = utf8 "(" then
        advance words true
        let start ← get
        let inside := (words.drop (start + 1)).takeWhile (· ≠ utf8 ")")
        let left := words.length - start
        let count := if 3 < inside.length then left else inside.length + 1
        let a ← holds fuel (.words (min count left))
        match words[← get]? with
        | none => senseless (Quote.plain (utf8 ")") ++ utf8 " expected")
        | some closing =>
          if closing ≠ utf8 ")" then
            senseless (Quote.plain (utf8 ")") ++ utf8 " expected, found " ++ Quote.plain closing)
          advance words false
          return a
      else
        let left := words.length - p
        match if 4 ≤ left ∧ w = utf8 "-l" then operator? (words[p + 2]?) else none with
        | some o => binary words o true
        | none =>
          match if 3 ≤ left then operator? (words[p + 1]?) else none with
          | some o => binary words o false
          | none => if isUnary w then unary words else one words

end Condition

/-- Whether a condition holds. -/
def decideCondition (words : List Bytes) : Work Unit := do
  if words = [] then Work.exit 1
  let (a, p) ← (Condition.holds words (8 * words.length + 16) (.words words.length)).run 0
  match words[p]? with
  | some extra => Work.fail 2 (utf8 "extra argument " ++ Quote.plain extra)
  | none => Work.exit (if a then 0 else 1)

/-- The condition between brackets. -/
def bracketed (words : List Bytes) : Work Unit :=
  if words.getLast? = some (utf8 "]") then decideCondition words.dropLast
  else Work.fail 2 (utf8 "missing " ++ Quote.plain (utf8 "]"))

end CommandShell.Tool
