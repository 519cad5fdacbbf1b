import CommandShell.Text.RegexSyntax
import CommandShell.Tool.Words

/-!
# Expressions

The tool `expr` computes with its arguments, each of which is a value or an operator, and writes the
result. It fails if that is nothing or zero.
-/

namespace CommandShell.Tool

namespace Expression

/-- A value. -/
inductive Value where
  /-- A number. -/
  | number (n : Int)
  /-- A text, which may be that of a number. -/
  | text (bytes : Bytes)

namespace Value

/-- The text of a value. -/
def bytes : Value → Bytes
  | number n => utf8 (toString n)
  | text b => b

/-- The number that a value is, if it is one. -/
def number? : Value → Option Int
  | number n => some n
  | text b =>
    let (negative, digits) := match b with
      | 0x2D :: rest => (true, rest)
      | _ => (false, b)
    if digits ≠ [] ∧ digits.all Text.Regex.isWordByte ∧
        digits.all (fun d => 0x30 ≤ d && d ≤ 0x39) then
      let n : Int := Text.Format.Real.count digits
      some (if negative then -n else n)
    else none

/-- Whether a value is nothing or zero. -/
def isNull (v : Value) : Bool :=
  v.bytes = [] || v.number? = some 0

end Value

/-- Reading an expression: the arguments that are passed, last first, and those that follow. -/
abbrev Reading (α : Type) : Type :=
  StateT (List Bytes × List Bytes) (ExceptT Unit (StateT Desk Program)) α

/-- A complaint that is the end. -/
def fail {α : Type} (what : Bytes) : Reading α :=
  StateT.lift (Work.fail 2 what)

/-- Passes an argument if it is a certain one. -/
def accept (name : String) : Reading Bool := do
  match ← get with
  | (before, a :: rest) =>
    if a = utf8 name then
      set (a :: before, rest)
      return true
    else return false
  | (_, []) => return false

/-- The first of some operators that the next argument is; it is passed. -/
def acceptAny : List String → Reading (Option String)
  | [] => return none
  | o :: rest => do
    if ← accept o then return some o else acceptAny rest

/-- Checks that an argument follows. -/
def requireMore : Reading Unit := do
  match ← get with
  | (before, []) =>
    fail (utf8 "syntax error: missing argument after " ++ Quote.plain (before.headD []))
  | _ => return ()

/-- Passes an argument. -/
def next : Reading Bytes := do
  requireMore
  match ← get with
  | (before, a :: rest) =>
    set (a :: before, rest)
    return a
  | (_, []) => return []

/-- What a text matches of an expression from its beginning on: a part if one is marked, or the
number of bytes. -/
def matched (value pattern : Value) : Reading Value := do
  match Text.Regex.parse .basic pattern.bytes with
  | .error f => fail (utf8 f.text)
  | .ok (r, groups, _) =>
    let subject : Text.Regex.Subject := ⟨value.bytes.toArray, false, false⟩
    match Text.Regex.matchAt subject r 0 with
    | none => return if groups = 0 then .number 0 else .text []
    | some p =>
      if groups = 0 then return .number p.position
      else
        match p.parts.lookup 1 with
        | some (a, b) => return .text ((value.bytes.drop a).take (b - a))
        | none => return .text []

/-- Compares two values, as numbers if both are. -/
def compare (o : String) (a b : Value) : Bool :=
  let order : Ordering := match a.number?, b.number? with
    | some x, some y => if x < y then .lt else if x = y then .eq else .gt
    | _, _ => if a.bytes < b.bytes then .lt else if a.bytes = b.bytes then .eq else .gt
  match o with
  | "<" => order = .lt
  | "<=" => order ≠ .gt
  | ">" => order = .gt
  | ">=" => order ≠ .lt
  | "!=" => order ≠ .eq
  | _ => order = .eq

/-- Computes with two values, which have to be numbers. -/
def compute (o : String) (a b : Value) : Reading Value := do
  match a.number?, b.number? with
  | some x, some y =>
    match o with
    | "+" => return .number (x + y)
    | "-" => return .number (x - y)
    | "*" => return .number (x * y)
    | _ =>
      if y = 0 then fail (utf8 "division by zero")
      else return .number (if o = "/" then x.tdiv y else x.tmod y)
  | _, _ => fail (utf8 "non-integer argument")

/-- The operators of each level, those that bind most tightly last. -/
def level : Nat → List String
  | 0 => ["|"]
  | 1 => ["&"]
  | 2 => ["<=", "<", "==", "=", "!=", ">=", ">"]
  | 3 => ["+", "-"]
  | 4 => ["*", "/", "%"]
  | _ => [":"]

/-- What is to be read. -/
inductive Goal where
  /-- Operands with operators of a level and of those below. -/
  | operands (level : Nat)
  /-- The rest of that, after a first operand. -/
  | rest (level : Nat) (first : Value)
  /-- A function or a value. -/
  | term
  /-- A value. -/
  | primary

/-- Reads a part of an expression. A part that cannot matter has no effect. -/
def read : Nat → Bool → Goal → Reading Value
  | 0, _, _ => return .number 0
  | fuel + 1, counts, goal => do
    match goal with
    | .operands n =>
      let a ← if 5 < n then read fuel counts .term else read fuel counts (.operands (n + 1))
      if 5 < n then return a else read fuel counts (.rest n a)
    | .rest n a =>
      match ← acceptAny (level n) with
      | none => return a
      | some o =>
        let inner := if n = 5 then Goal.term else .operands (n + 1)
        match n with
        | 0 =>
          let b ← read fuel (counts && a.isNull) inner
          read fuel counts (.rest n (if a.isNull then (if b.isNull then .number 0 else b) else a))
        | 1 =>
          let b ← read fuel (counts && !a.isNull) inner
          read fuel counts (.rest n (if a.isNull ∨ b.isNull then .number 0 else a))
        | _ =>
          let b ← read fuel counts inner
          let v ← if !counts then pure (if n = 5 then a else .number 0)
            else if n = 2 then pure (.number (if compare o a b then 1 else 0))
            else if n = 5 then matched a b
            else compute o a b
          read fuel counts (.rest n v)
    | .term =>
      match ← acceptAny ["+", "length", "match", "index", "substr"] with
      | some "+" => return .text (← next)
      | some "length" =>
        let a ← read fuel counts .term
        return .number a.bytes.length
      | some "match" =>
        let a ← read fuel counts .term
        let b ← read fuel counts .term
        if counts then matched a b else return a
      | some "index" =>
        let a ← read fuel counts .term
        let b ← read fuel counts .term
        let before := a.bytes.takeWhile fun x => !b.bytes.contains x
        return .number (if before.length < a.bytes.length then before.length + 1 else 0)
      | some _ =>
        let a ← read fuel counts .term
        let start ← read fuel counts .term
        let size ← read fuel counts .term
        match start.number?, size.number? with
        | some i, some n =>
          if i ≤ 0 ∨ n ≤ 0 then return .text []
          else return .text ((a.bytes.drop (i.toNat - 1)).take n.toNat)
        | _, _ => return .text []
      | none => read fuel counts .primary
    | .primary =>
      requireMore
      if ← accept "(" then
        let a ← read fuel counts (.operands 0)
        match ← get with
        | (before, []) =>
          fail (utf8 "syntax error: expecting ')' after " ++ Quote.plain (before.headD []))
        | (_, b :: _) =>
          if ← accept ")" then return a
          else fail (utf8 "syntax error: expecting ')' instead of " ++ Quote.plain b)
      else if ← accept ")" then fail (utf8 "syntax error: unexpected ')'")
      else return .text (← next)

end Expression

/-- Computes an expression and writes its value. -/
def expr (args : List Bytes) : Work Unit := do
  let words := match args with
    | [0x2D, 0x2D] :: rest => rest
    | _ => args
  if words = [] then Work.missingOperand 2
  let (v, _, left) ←
    (Expression.read (16 * words.length + 32) true (.operands 0)).run ([utf8 "expr"], words)
  match left with
  | extra :: _ =>
    Work.fail 2 (utf8 "syntax error: unexpected argument " ++ Quote.plain extra)
  | [] =>
    Work.putLine v.bytes
    if v.isNull then Work.fault 1

end CommandShell.Tool
