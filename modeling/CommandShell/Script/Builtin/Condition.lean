import CommandShell.Script.Builtin.Words

/-!
# Conditions

The command `test` of the shell, also written with brackets, looks at texts, numbers and files. Its
words are read from left to right; a word that could be an operator is an operand if it stands where
only an operand makes sense.
-/

namespace CommandShell.Script

/-- An operator of a condition. -/
inductive Probe where
  /-- Looks at one operand. -/
  | unary (letter : UInt8)
  /-- Compares two operands. -/
  | binary (name : Bytes)
  | bang | both | either | opening | closing
deriving DecidableEq

namespace Probe

/-- The letters of the operators that look at one operand. -/
def letters : Bytes := utf8 "rwxefdcbpugkhLSstznOG"

/-- The operators that compare two operands. -/
def comparisons : List String :=
  ["=", "==", "!=", "<", ">", "-eq", "-ne", "-gt", "-ge", "-lt", "-le", "-nt", "-ot", "-ef"]

/-- The operator that a word is, if it is one. -/
def ofWord? (word : Bytes) : Option Probe :=
  if word = utf8 "!" then some .bang
  else if word = utf8 "(" then some .opening
  else if word = utf8 ")" then some .closing
  else if word = utf8 "-a" then some .both
  else if word = utf8 "-o" then some .either
  else if comparisons.any fun c => utf8 c = word then some (.binary word)
  else
    match word with
    | [0x2D, b] => if letters.contains b then some (.unary b) else none
    | _ => none

/-- Whether an operator compares two operands. -/
def isBinary : Probe → Bool
  | binary _ => true
  | _ => false

end Probe

/-- How far the words of a condition have been read. -/
abbrev Words := List Bytes

/-- Reading a condition. -/
abbrev Condition (α : Type) : Type := StateT Words (ExceptT Stop (StateT Shell Program)) α

namespace Condition

open Act

/-- The operator that the first word is where a condition may begin. -/
def first? : Words → Option Probe
  | [] => none
  | word :: rest =>
    match Probe.ofWord? word with
    | some (.unary b) =>
      match rest with
      | [] => none
      | _ :: [] => some (.unary b)
      | next :: _ =>
        match Probe.ofWord? next with
        | some p => if p.isBinary then none else some (.unary b)
        | none => some (.unary b)
    | some .opening => if rest = [] then none else some .opening
    | p => p

/-- A word makes no sense. -/
def senseless {α : Type} (word : Bytes) (what : String) : Condition α :=
  fail ((if word = [] then [] else word ++ utf8 ": ") ++ utf8 what)

/-- The number that an operand spells. -/
def numberOf (word : Bytes) : Condition Int := do
  match Arithmetic.decimal? word with
  | some n => return n
  | none => fail (utf8 "Illegal number: " ++ word)

/-- The facts about an entry. -/
def factsOf? (path : Bytes) (through : Bool) : Condition (Option Facts) := do
  match ← (Act.call (.facts path through) : Act _) with
  | .ok f => return some f
  | .error _ => return none

/-- What an operator says of one operand. -/
def unary (b : UInt8) (operand : Bytes) : Condition Bool := do
  match b with
  | 0x7A => return operand.isEmpty
  | 0x6E => return !operand.isEmpty
  | 0x74 =>
    let _ ← numberOf operand
    return false
  | _ =>
    let link := b = 0x68 ∨ b = 0x4C
    match ← factsOf? operand (!link) with
    | none => return false
    | some f =>
      return match b with
        | 0x66 => f.kind = .file
        | 0x64 => f.kind = .directory
        | 0x70 => f.kind = .pipe
        | 0x63 => f.kind = .device
        | 0x73 => f.size ≠ 0
        | 0x78 => f.kind = .directory || f.mode &&& 0o111 ≠ 0
        | 0x68 => f.kind = .link
        | 0x4C => f.kind = .link
        | 0x62 => false
        | 0x53 => false
        | 0x75 => f.mode &&& 0o4000 ≠ 0
        | 0x67 => f.mode &&& 0o2000 ≠ 0
        | 0x6B => f.mode &&& 0o1000 ≠ 0
        | _ => true

/-- What an operator says of two operands. -/
def binary (name a b : Bytes) : Condition Bool := do
  let numbers : (Int → Int → Bool) → Condition Bool := fun f => do
    let x ← numberOf a
    let y ← numberOf b
    return f x y
  if name = utf8 "=" ∨ name = utf8 "==" then return a = b
  else if name = utf8 "!=" then return a ≠ b
  else if name = utf8 "<" then return decide (a < b)
  else if name = utf8 ">" then return decide (b < a)
  else if name = utf8 "-eq" then numbers fun x y => x = y
  else if name = utf8 "-ne" then numbers fun x y => x ≠ y
  else if name = utf8 "-gt" then numbers fun x y => x > y
  else if name = utf8 "-ge" then numbers fun x y => x ≥ y
  else if name = utf8 "-lt" then numbers fun x y => x < y
  else if name = utf8 "-le" then numbers fun x y => x ≤ y
  else
    let f ← factsOf? a true
    let g ← factsOf? b true
    match f, g with
    | some f, some g =>
      if name = utf8 "-nt" then return decide (g.modified < f.modified)
      else if name = utf8 "-ot" then return decide (f.modified < g.modified)
      else return f.location = g.location
    | _, _ => return false

/-- What is to be read of a condition. -/
inductive Goal where
  /-- Alternatives. -/
  | either
  /-- Conditions that all have to hold. -/
  | both
  /-- A condition that may be negated. -/
  | negation
  /-- A condition. -/
  | primary

/-- Reads a condition, whose first word is next; what is left of the words begins with the last word
of the condition. -/
def holds : Nat → Goal → Option Probe → Condition Bool
  | 0, _, _ => return false
  | fuel + 1, .either, p => do
    let a ← holds fuel .both p
    let words ← get
    match first? words.tail with
    | some .either =>
      set (words.drop 2)
      let b ← holds fuel .either (first? (words.drop 2))
      return a || b
    | _ => return a
  | fuel + 1, .both, p => do
    let a ← holds fuel .negation p
    let words ← get
    match first? words.tail with
    | some .both =>
      set (words.drop 2)
      let b ← holds fuel .both (first? (words.drop 2))
      return a && b
    | _ => return a
  | fuel + 1, .negation, p => do
    if p = some .bang then
      let words ← get
      let rest := words.tail
      if rest ≠ [] then set rest
      let a ← holds fuel .negation (first? rest)
      return !(rest ≠ [] && a)
    else holds fuel .primary p
  | fuel + 1, .primary, p => do
    let words ← get
    match words with
    | [] => return false
    | word :: rest =>
      match p with
      | some .opening =>
        set rest
        match first? rest with
        | some .closing => return false
        | q =>
          let a ← holds fuel .either q
          let words ← get
          set words.tail
          if first? words.tail ≠ some .closing then fail (utf8 "closing paren expected")
          return a
      | some (.unary b) =>
        match rest with
        | [] => senseless word "argument expected"
        | operand :: _ =>
          set rest
          unary b operand
      | _ =>
        match rest with
        | operator :: others =>
          match first? rest with
          | some (.binary name) =>
            match others with
            | [] => senseless operator "argument expected"
            | b :: _ =>
              set others
              binary name word b
          | _ => return !word.isEmpty
        | [] => return !word.isEmpty

/-- Reads words as a condition with nothing after it. -/
def whole (words : Words) : Act Bool := do
  let (a, left) ← (holds (8 * words.length + 16) .either (first? words)).run words
  match left with
  | word :: _ :: _ =>
    let (r, _) ← (senseless word "unexpected operator").run words
    return r
  | _ => return a

/-- Whether a condition holds, from its words. Few words are read by their number: what stands
between two operands is an operator, if it can be one, and three or four words may be in parentheses
or negated. A negation of what is negated already changes nothing. -/
def decideWords : Nat → Bool → Words → Act Bool
  | 0, _, _ => return false
  | n + 1, negated, words => do
    match words with
    | [] => return false
    | [a, op, b] =>
      match Probe.ofWord? op with
      | some (.binary name) =>
        let (r, _) ← (binary name a b).run []
        return r != negated
      | _ => enclosed n negated words
    | [_, _, _, _] => enclosed n negated words
    | _ => return (← whole words) != negated
where
  /-- Words that may be in parentheses or negated. -/
  enclosed (n : Nat) (negated : Bool) (words : Words) : Act Bool := do
    if words.head? = some (utf8 "(") ∧ words.getLast? = some (utf8 ")") then
      decideWords n negated words.tail.dropLast
    else if words.head? = some (utf8 "!") then decideWords n true words.tail
    else return (← whole words) != negated

end Condition

namespace Act

/-- Whether a condition holds; nothing is written if it does not. -/
def test (bracketed : Bool) (words : List Bytes) : Act Nat := do
  if bracketed ∧ words.getLast? ≠ some (utf8 "]") then fail (utf8 "missing ]")
  let words := if bracketed then words.dropLast else words
  return if ← Condition.decideWords 8 false words then 0 else 1

end Act

end CommandShell.Script
