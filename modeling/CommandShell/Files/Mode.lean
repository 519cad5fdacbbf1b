import CommandShell.Bytes

/-!
# Changes of permissions

The permissions of a file are twelve bits: three for each of its owner, its group and all others,
and three more. A text describes how they change, either as a number or as clauses that say whom a
change concerns, what is done, and with which permissions.
-/

namespace CommandShell

/-- Where the permissions of a clause come from. -/
inductive ModeSource where
  /-- They are given. -/
  | given
  /-- They are those that a part of the mode has already. -/
  | existing
  /-- They are given, and if anybody may execute the file, so may everybody. -/
  | sharedExecution
deriving DecidableEq

/-- A clause of a change. -/
structure ModeClause where
  /-- `+`, `-` or `=`. -/
  operation : UInt8
  /-- The bits of those whom it concerns; none if it does not say. -/
  affected : Nat
  /-- The bits. -/
  value : Nat
  /-- Where the bits come from. -/
  source : ModeSource
  /-- The bits that are spoken of. A directory keeps its two highest bits if they are not. -/
  mentioned : Nat

namespace ModeClause

/-- All bits. -/
def everything : Nat := 0o7777

/-- The bits of those whom a letter stands for. -/
def who? (b : UInt8) : Option Nat :=
  match b with
  | 0x75 => some 0o4700
  | 0x67 => some 0o2070
  | 0x6F => some 0o1007
  | 0x61 => some everything
  | _ => none

/-- The bits that a letter stands for. -/
def permission? (b : UInt8) : Option Nat :=
  match b with
  | 0x72 => some 0o444
  | 0x77 => some 0o222
  | 0x78 => some 0o111
  | 0x73 => some 0o6000
  | 0x74 => some 0o1000
  | 0x58 => some 0
  | _ => none

/-- Whether a byte is a digit of base eight. -/
def isDigit (b : UInt8) : Bool :=
  0x30 ≤ b && b ≤ 0x37

/-- The number that digits of base eight spell, if it is one of a mode. -/
def octal? (digits : Bytes) : Option Nat :=
  let n := digits.foldl (fun n b => n * 8 + (b.toNat - 0x30)) 0
  if n ≤ everything then some n else none

/-- What a letter after an operation means if it stands for a part of the mode. -/
def part? (b : UInt8) : Option Nat :=
  match b with
  | 0x75 => some 0o700
  | 0x67 => some 0o070
  | 0x6F => some 0o007
  | _ => none

/-- The first operation of a text for some whom it concerns, and the rest of the text. -/
def operation? (affected : Nat) (text : Bytes) : Option (ModeClause × Bytes) :=
  match text with
  | op :: rest =>
    if op = 0x2B ∨ op = 0x2D ∨ op = 0x3D then
      let digits := rest.takeWhile isDigit
      if digits ≠ [] then
        let after := rest.drop digits.length
        if affected ≠ 0 ∨ (after ≠ [] ∧ after.head? ≠ some 0x2C) then none
        else (octal? digits).map fun n => (⟨op, everything, n, .given, everything⟩, after)
      else
        let mentioned := fun (value : Nat) => if affected = 0 then value else affected &&& value
        match rest.head?.bind part? with
        | some bits => some (⟨op, affected, bits, .existing, mentioned bits⟩, rest.tail)
        | none =>
          let letters := rest.takeWhile fun b => (permission? b).isSome
          let value := letters.foldl (fun n b => n ||| (permission? b).getD 0) 0
          let source := if letters.contains 0x58 then .sharedExecution else .given
          some (⟨op, affected, value, source, mentioned value⟩, rest.drop letters.length)
    else none
  | [] => none

/-- The clauses of a text. -/
def clauses? : Nat → Nat → Bytes → Option (List ModeClause)
  | 0, _, _ => none
  | fuel + 1, affected, text =>
    match operation? affected text with
    | none => none
    | some (clause, rest) =>
      match rest with
      | [] => some [clause]
      | 0x2C :: more =>
        let names := more.takeWhile fun b => (who? b).isSome
        let affected := names.foldl (fun n b => n ||| (who? b).getD 0) 0
        (clauses? fuel affected (more.drop names.length)).map (clause :: ·)
      | _ => (clauses? fuel affected rest).map (clause :: ·)

/-- The clauses that a text describes. -/
def ofText? (text : Bytes) : Option (List ModeClause) :=
  match text with
  | [] => none
  | b :: _ =>
    if isDigit b then
      if text.all isDigit then
        (octal? text).map fun n =>
          let mentioned := if text.length < 5 then n &&& 0o7000 ||| 0o777 else everything
          [⟨0x3D, everything, n, .given, mentioned⟩]
      else none
    else
      let names := text.takeWhile fun b => (who? b).isSome
      let affected := names.foldl (fun n b => n ||| (who? b).getD 0) 0
      clauses? (text.length + 1) affected (text.drop names.length)

/-- The bits that are in a mode and not in another. -/
def without (mode bits : Nat) : Nat :=
  mode &&& (everything ^^^ (bits &&& everything))

/-- The mode after a clause. Whom a clause does not concern by name it concerns as far as a mask
does not withhold it; two bits of a directory are kept unless they are spoken of. -/
def apply (mask : Nat) (directory : Bool) (mode : Nat) (c : ModeClause) : Nat :=
  let value := match c.source with
    | .given => c.value
    | .existing =>
      let bits := c.value &&& mode
      let spread := fun (one : Nat) => if bits &&& one = 0 then 0 else one
      spread 0o444 ||| spread 0o222 ||| spread 0o111
    | .sharedExecution =>
      if directory ∨ mode &&& 0o111 ≠ 0 then c.value ||| 0o111 else c.value
  let kept := if directory then without 0o6000 c.mentioned else 0
  let value := if c.affected = 0 then without value mask else value &&& c.affected
  let value := without value kept
  match c.operation with
  | 0x2B => mode ||| value
  | 0x2D => without mode value
  | _ =>
    let changed := if c.affected = 0 then everything else c.affected
    without mode (without changed kept) ||| value

/-- The mode after some clauses. -/
def applyAll (mask : Nat) (directory : Bool) (mode : Nat) (cs : List ModeClause) : Nat :=
  cs.foldl (apply mask directory) mode

end ModeClause

end CommandShell
