/-!
# Byte strings

Lines, arguments, paths and file contents are byte strings without any assumption on their
encoding. Texts of the interpreter itself are written in UTF-8.
-/

namespace CommandShell

/-- A string of bytes of any encoding. -/
abbrev Bytes := List UInt8

/-- The UTF-8 form of a text. -/
def utf8 (text : String) : Bytes :=
  text.toUTF8.data.toList

/-- The UTF-8 form of a text in two parts. -/
theorem utf8_append (a b : String) : utf8 (a ++ b) = utf8 a ++ utf8 b := by
  simp [utf8]

/-- The value of a digit in base sixteen. -/
def hexDigit? (b : UInt8) : Option Nat :=
  if 0x30 ≤ b ∧ b ≤ 0x39 then some (b.toNat - 0x30)
  else if 0x61 ≤ b ∧ b ≤ 0x66 then some (b.toNat - 0x61 + 10)
  else if 0x41 ≤ b ∧ b ≤ 0x46 then some (b.toNat - 0x41 + 10)
  else none

/-- The sum of numbers, such as the lengths of strings. -/
def sumOf : List Nat → Nat
  | [] => 0
  | n :: rest => n + sumOf rest

@[simp]
theorem sumOf_nil : sumOf [] = 0 :=
  rfl

@[simp]
theorem sumOf_cons (n : Nat) (rest : List Nat) : sumOf (n :: rest) = n + sumOf rest :=
  rfl

end CommandShell
