import CommandShell.Tool.Options

/-!
# Numbers in arguments

A number may be followed by a unit that it is multiplied by: a letter for a power of 1024, or, with
a `B` after it, of 1000.
-/

namespace CommandShell.Tool

/-- What a text is as a number. -/
inductive Amount where
  /-- A number. -/
  | number (n : Nat)
  /-- A number that is too great. -/
  | excessive
  /-- No number. -/
  | invalid
deriving DecidableEq

namespace Amount

/-- The greatest number. -/
def greatest : Nat := 0xFFFFFFFFFFFFFFFF

/-- Whether a byte is a digit. -/
def isDigit (b : UInt8) : Bool :=
  0x30 ≤ b && b ≤ 0x39

/-- The number that digits spell. -/
def count (digits : Bytes) : Nat :=
  digits.foldl (fun n b => n * 10 + (b.toNat - 0x30)) 0

/-- The power of a thousand, or nearly, that a letter stands for. -/
def power? (b : UInt8) : Option Nat :=
  match b with
  | 0x6B => some 1
  | 0x4B => some 1
  | 0x6D => some 2
  | 0x4D => some 2
  | 0x67 => some 3
  | 0x47 => some 3
  | 0x74 => some 4
  | 0x54 => some 4
  | 0x50 => some 5
  | 0x45 => some 6
  | 0x5A => some 7
  | 0x59 => some 8
  | 0x52 => some 9
  | 0x51 => some 10
  | _ => none

/-- What a unit multiplies with, out of those whose letters are given. -/
def unit? (letters : String) (text : Bytes) : Option Nat :=
  match text with
  | [] => some 1
  | b :: rest =>
    if !(utf8 letters).contains b then none
    else
      match power? b, rest with
      | some n, [] => some (Nat.pow 1024 n)
      | some n, [0x42] => some (Nat.pow 1000 n)
      | some n, [0x69, 0x42] => some (Nat.pow 1024 n)
      | none, [] =>
        if b = 0x62 then some 512 else if b = 0x63 then some 1
        else if b = 0x42 then some 1024 else if b = 0x77 then some 2 else none
      | _, _ => none

/-- What a text is as a number with a unit, out of those whose letters are given. -/
def ofText (letters : String) (text : Bytes) : Amount :=
  let body := text.dropWhile fun b => b = 0x20 || (0x09 ≤ b && b ≤ 0x0D)
  let body := match body with
    | 0x2B :: rest => rest
    | _ => body
  let digits := body.takeWhile isDigit
  let after := body.drop digits.length
  if digits = [] ∧ (after = [] ∨ body.length ≠ text.length) then .invalid
  else
    match unit? letters after with
    | none => .invalid
    | some n =>
      let n := (if digits = [] then 1 else count digits) * n
      if n ≤ greatest then .number n else .excessive

/-- What a text is as a number with a unit; the number is in base sixteen after `0x`, and in base
eight after another zero. -/
def ofTextInAnyBase (letters : String) (text : Bytes) : Amount :=
  let (base, body) := match text with
    | 0x30 :: 0x78 :: rest => (16, rest)
    | 0x30 :: 0x58 :: rest => (16, rest)
    | 0x30 :: rest => (8, 0x30 :: rest)
    | _ => (10, text)
  if base = 10 then ofText letters text
  else
    let digits := body.takeWhile fun b => (hexDigit? b).any (· < base)
    let n := digits.foldl (fun n b => n * base + (hexDigit? b).getD 0) 0
    if digits = [] then .invalid
    else
      match unit? letters (body.drop digits.length) with
      | some k => if n * k ≤ greatest then .number (n * k) else .excessive
      | none => .invalid

end Amount

namespace Work

/-- The number that a text is; what is wrong with it ends the work. -/
def amount (letters : String) (status : Nat) (complaint : String) (text : Bytes) : Work Nat :=
  match Amount.ofText letters text with
  | .number n => return n
  | .excessive =>
    fail status (utf8 (complaint ++ ": ") ++ Quote.plain text ++
      utf8 (": " ++ Errno.valueTooLarge.libraryText))
  | .invalid => fail status (utf8 (complaint ++ ": ") ++ Quote.plain text)

end Work

end CommandShell.Tool
