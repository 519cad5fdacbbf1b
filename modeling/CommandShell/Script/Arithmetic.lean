import CommandShell.Script.Token

/-!
# Arithmetic expressions

Expressions over whole numbers of 64 bits, with the operators of C except those that count up and
down. A variable stands for the number that its value spells, and can be set within an expression.
An operand that cannot matter is read but has no effect.
-/

namespace CommandShell.Script.Arithmetic

/-- An operator between two operands, with those that bind most tightly first. -/
inductive Operator where
  | times | quotient | remainder | plus | minus | left | right | less | lessEqual | greater
  | greaterEqual | equal | different | bitAnd | bitXor | bitOr
deriving DecidableEq

namespace Operator

/-- How loosely an operator binds. -/
def looseness : Operator → Nat
  | times | quotient | remainder => 0
  | plus | minus => 1
  | left | right => 2
  | less | lessEqual | greater | greaterEqual => 3
  | equal | different => 4
  | bitAnd => 5
  | bitXor => 6
  | bitOr => 7

end Operator

/-- A token of an expression. -/
inductive Sign where
  | number (n : Int)
  | variable_ (name : Bytes)
  | operator (o : Operator)
  | assign (o : Option Operator)
  | both | either | opposite | complement | question | colon | opening | closing | finish | bad
deriving DecidableEq

/-- The number of 64 bits that a number is cut to. -/
def wrap (n : Int) : Int :=
  Int.bmod n 0x10000000000000000

/-- The greatest number. -/
def greatest : Int := 0x7FFFFFFFFFFFFFFF

/-- The least number. -/
def least : Int := -0x8000000000000000

/-- The value of a digit, in bases up to sixteen. -/
def digit? (b : UInt8) : Option Nat :=
  if 0x30 ≤ b ∧ b ≤ 0x39 then some (b.toNat - 0x30)
  else if 0x61 ≤ b ∧ b ≤ 0x66 then some (b.toNat - 0x61 + 10)
  else if 0x41 ≤ b ∧ b ≤ 0x46 then some (b.toNat - 0x41 + 10)
  else none

/-- Whether a byte is a digit in a base. -/
def isDigitOf (base : Nat) (b : UInt8) : Bool :=
  match digit? b with
  | some d => d < base
  | none => false

/-- The number that digits spell in a base. -/
def numberOf (base : Nat) (digits : Bytes) : Nat :=
  digits.foldl (fun n b => n * base + (digit? b).getD 0) 0

/-- The number that bytes begin with, in the base that its first digits ask for, and the rest. -/
def leadingNumber (bytes : Bytes) : Nat × Bytes :=
  let take := fun (base : Nat) (rest : Bytes) =>
    let digits := rest.takeWhile (isDigitOf base)
    (numberOf base digits, rest.drop digits.length)
  match bytes with
  | 0x30 :: x :: d :: rest =>
    if (x = 0x78 ∨ x = 0x58) ∧ isDigitOf 16 d then take 16 (d :: rest) else take 8 bytes
  | 0x30 :: _ => take 8 bytes
  | _ => take 10 bytes

/-- Whether a byte is white space. -/
def isSpace (b : UInt8) : Bool :=
  b = 0x20 || (0x09 ≤ b && b ≤ 0x0D)

/-- The number that a text spells in the base that it asks for; white space around it does not
matter, and no text at all is zero. A number that is too great or too small is an error. -/
def value? (text : Bytes) : Option Int :=
  let body := text.dropWhile isSpace
  let (negative, digits) := match body with
    | 0x2D :: rest => (true, rest)
    | 0x2B :: rest => (false, rest)
    | _ => (false, body)
  let (n, rest) := leadingNumber digits
  let value : Int := if negative then -n else n
  if (digits.head?.map (isDigitOf 10)).getD false then
    if rest.all isSpace ∧ least ≤ value ∧ value ≤ greatest then some value else none
  else if body.isEmpty then some 0 else none

/-- The number that a text spells in base ten, with white space around it. -/
def decimal? (text : Bytes) : Option Int :=
  let body := text.dropWhile isSpace
  let (negative, rest) := match body with
    | 0x2D :: rest => (true, rest)
    | 0x2B :: rest => (false, rest)
    | _ => (false, body)
  let digits := rest.takeWhile Word.isDigit
  let n := numberOf 10 digits
  let value : Int := if negative then -n else n
  let isWhole := digits ≠ [] ∧ (rest.drop digits.length).all isSpace
  if isWhole ∧ least ≤ value ∧ value ≤ greatest then some value else none

/-- The number that a text spells in base ten, if it is none below zero and of at most 31 bits. -/
def count? (text : Bytes) : Option Nat :=
  match decimal? text with
  | some (.ofNat n) => if n < 0x80000000 then some n else none
  | _ => none

/-- The first token of an expression and what follows it. -/
def sign (text : Bytes) : Sign × Bytes :=
  let text := text.dropWhile fun b => b = 0x20 || b = 0x09 || b = 0x0A
  let orAssign := fun (o : Operator) (rest : Bytes) =>
    match rest with
    | 0x3D :: rest => (Sign.assign (some o), rest)
    | _ => (.operator o, rest)
  match text with
  | [] => (.finish, [])
  | b :: rest =>
    if Word.isDigit b then
      let (n, rest) := leadingNumber text
      (.number (min (n : Int) greatest), rest)
    else if Word.startsName b then
      let name := text.takeWhile Word.continuesName
      (.variable_ name, text.drop name.length)
    else
      match b, rest with
      | 0x3D, 0x3D :: rest => (.operator .equal, rest)
      | 0x3D, _ => (.assign none, rest)
      | 0x3E, 0x3D :: rest => (.operator .greaterEqual, rest)
      | 0x3E, 0x3E :: rest => orAssign .right rest
      | 0x3E, _ => (.operator .greater, rest)
      | 0x3C, 0x3D :: rest => (.operator .lessEqual, rest)
      | 0x3C, 0x3C :: rest => orAssign .left rest
      | 0x3C, _ => (.operator .less, rest)
      | 0x7C, 0x7C :: rest => (.either, rest)
      | 0x7C, _ => orAssign .bitOr rest
      | 0x26, 0x26 :: rest => (.both, rest)
      | 0x26, _ => orAssign .bitAnd rest
      | 0x21, 0x3D :: rest => (.operator .different, rest)
      | 0x21, _ => (.opposite, rest)
      | 0x28, _ => (.opening, rest)
      | 0x29, _ => (.closing, rest)
      | 0x2A, _ => orAssign .times rest
      | 0x2F, _ => orAssign .quotient rest
      | 0x25, _ => orAssign .remainder rest
      | 0x2B, _ => orAssign .plus rest
      | 0x2D, _ => orAssign .minus rest
      | 0x5E, _ => orAssign .bitXor rest
      | 0x7E, _ => (.complement, rest)
      | 0x3F, _ => (.question, rest)
      | 0x3A, _ => (.colon, rest)
      | _, _ => (.bad, rest)

/-- How far an expression has been read. -/
structure Progress where
  /-- The next token. -/
  sign : Sign
  /-- What follows it. -/
  rest : Bytes
  /-- The variables that were set, with their values, newest first. -/
  assigned : List (Bytes × Int)

/-- What is wrong with an expression. -/
inductive Fault where
  /-- The expression itself. -/
  | expression (complaint : String)
  /-- The value of a variable is no number. -/
  | value (text : Bytes)
  /-- The least number was divided by minus one, which the processor cannot do. -/
  | trap

/-- Reading an expression and finding its value. -/
abbrev Reading (α : Type) : Type :=
  StateT Progress (Except Fault) α

/-- Goes on to the next token. -/
def advance : Reading Unit :=
  modify fun p =>
    let (s, rest) := sign p.rest
    { p with sign := s, rest := rest }

/-- The expression makes no sense. -/
def fail {α : Type} (complaint : String) : Reading α :=
  throw (.expression complaint)

/-- The value of an operation. -/
def apply (o : Operator) (a b : Int) : Reading Int := do
  let truth := fun (p : Bool) => if p then (1 : Int) else 0
  let bits := fun (n : Int) => BitVec.ofInt 64 n
  match o with
  | .times => return wrap (a * b)
  | .quotient => do
    checkDivision
    return a.tdiv b
  | .remainder => do
    checkDivision
    return a.tmod b
  | .plus => return wrap (a + b)
  | .minus => return wrap (a - b)
  | .left => return ((bits a) <<< ((bits b).toNat % 64)).toInt
  | .right => return ((bits a).sshiftRight ((bits b).toNat % 64)).toInt
  | .less => return truth (a < b)
  | .lessEqual => return truth (a ≤ b)
  | .greater => return truth (a > b)
  | .greaterEqual => return truth (a ≥ b)
  | .equal => return truth (a = b)
  | .different => return truth (a ≠ b)
  | .bitAnd => return ((bits a) &&& (bits b)).toInt
  | .bitXor => return ((bits a) ^^^ (bits b)).toInt
  | .bitOr => return ((bits a) ||| (bits b)).toInt
where
  /-- Breaks off if the numbers cannot be divided. -/
  checkDivision : Reading Unit := do
    if b = 0 then fail "division by zero"
    if a = least ∧ b = -1 then throw .trap

variable (lookup : Bytes → Option Bytes)

/-- The number that a variable stands for. -/
def valueOf (name : Bytes) : Reading Int := do
  match (← get).assigned.lookup name with
  | some n => return n
  | none =>
    let text := (lookup name).getD []
    match value? text with
    | some n => return n
    | none => throw (.value text)

/-- What is to be read of an expression. If `idle` is set, its value does not matter. -/
inductive Goal where
  /-- An expression that may set a variable. -/
  | assignment (idle : Bool)
  /-- A choice of two by a condition. -/
  | choice (idle : Bool)
  /-- Alternatives. -/
  | alternatives (idle : Bool)
  /-- Conditions. -/
  | conditions (idle : Bool)
  /-- An operand. -/
  | operand (idle : Bool)
  /-- What follows an operand and an operator, as far as it binds more tightly than a bound. -/
  | operations (a : Int) (o : Operator) (bound : Nat) (idle : Bool)

/-- Reads a part of an expression and finds its value. -/
def evaluate : Nat → Goal → Reading Int
  | 0, _ => fail "expecting primary"
  | fuel + 1, .assignment idle => do
    match (← get).sign with
    | .variable_ name =>
      let before ← get
      advance
      match (← get).sign with
      | .assign o => do
        advance
        let value ← evaluate fuel (.assignment idle)
        if idle then return value
        let value ← match o with
          | none => pure value
          | some o => do apply o (← valueOf lookup name) value
        modify fun p => { p with assigned := (name, value) :: p.assigned }
        return value
      | _ => do
        set before
        evaluate fuel (.choice idle)
    | _ => evaluate fuel (.choice idle)
  | fuel + 1, .choice idle => do
    let a ← evaluate fuel (.alternatives idle)
    if (← get).sign ≠ .question then return a
    advance
    let b ← evaluate fuel (.assignment (idle || a = 0))
    if (← get).sign ≠ .colon then fail "expecting ':'"
    advance
    let c ← evaluate fuel (.choice (idle || a ≠ 0))
    return if a ≠ 0 then b else c
  | fuel + 1, .alternatives idle => do
    let a ← evaluate fuel (.conditions idle)
    if (← get).sign ≠ .either then return a
    advance
    let b ← evaluate fuel (.alternatives (idle || a ≠ 0))
    return if a ≠ 0 ∨ b ≠ 0 then 1 else 0
  | fuel + 1, .conditions idle => do
    let a ← evaluate fuel (.operand idle)
    let a ← match (← get).sign with
      | .operator o => evaluate fuel (.operations a o 8 idle)
      | _ => pure a
    if (← get).sign ≠ .both then return a
    advance
    let b ← evaluate fuel (.conditions (idle || a = 0))
    return if a ≠ 0 ∧ b ≠ 0 then 1 else 0
  | fuel + 1, .operations a o bound idle => do
    advance
    let b ← evaluate fuel (.operand idle)
    let b ← match (← get).sign with
      | .operator next =>
        if next.looseness < o.looseness then evaluate fuel (.operations b next o.looseness idle)
        else pure b
      | _ => pure b
    let a ← if idle then pure b else apply o a b
    match (← get).sign with
    | .operator next =>
      if next.looseness < bound then evaluate fuel (.operations a next bound idle) else return a
    | _ => return a
  | fuel + 1, .operand idle => do
    let s := (← get).sign
    match s with
    | .opening => do
      advance
      let a ← evaluate fuel (.assignment idle)
      if (← get).sign ≠ .closing then fail "expecting ')'"
      advance
      return a
    | .number n => do
      advance
      return n
    | .variable_ name => do
      advance
      if idle then return 0 else valueOf lookup name
    | .operator .plus => do
      advance
      evaluate fuel (.operand idle)
    | .operator .minus => do
      advance
      return wrap (-(← evaluate fuel (.operand idle)))
    | .opposite => do
      advance
      return if (← evaluate fuel (.operand idle)) = 0 then 1 else 0
    | .complement => do
      advance
      return wrap (-(← evaluate fuel (.operand idle)) - 1)
    | _ => fail "expecting primary"

/-- The value of an expression, with the variables that it sets, first to last. -/
def run (text : Bytes) : Except Fault (Int × List (Bytes × Int)) := do
  let (first, rest) := sign text
  let (n, p) ← (do
    let n ← evaluate lookup (8 * text.length + 16) (.assignment false)
    if (← get).sign ≠ .finish then fail "expecting EOF"
    return n : Reading Int).run ⟨first, rest, []⟩
  return (n, p.assigned.reverse)

end CommandShell.Script.Arithmetic
