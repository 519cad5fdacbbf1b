import CommandShell.Text.Utf8
import CommandShell.Text.Unprintable
import CommandShell.Text.GraphemeExtend

/-!
# Quoted byte strings

The form in which diagnostics show lists of byte strings: `["echo", "a\tb", "caf\xE9"]`. A
character stands for itself unless it could be misread; bytes that are no part of any character are
shown by their value. Nothing is lost: different lists have different quoted forms.
-/

namespace CommandShell.Text

/-- The digits of a number in base sixteen, in lower case and without leading zeros. -/
def hexDigits (n : Nat) : List Char :=
  Nat.toDigits 16 n

/-- The digit of a number below sixteen, in upper case. -/
def upperHexDigit (n : Nat) : Char :=
  if n < 10 then Char.ofNat (48 + n) else Char.ofNat (55 + n)

/-- A character as its code point: `\u`, and the number in braces. -/
def codePointEscape (c : Char) : List Char :=
  ['\\', 'u', '\x7b'] ++ hexDigits c.toNat ++ ['\x7d']

/-- A character inside quotation marks. -/
def quotedChar (c : Char) : List Char :=
  if c = '\x00' then ['\\', '0']
  else if c = '\t' then ['\\', 't']
  else if c = '\r' then ['\\', 'r']
  else if c = '\n' then ['\\', 'n']
  else if c = '\\' ∨ c = '"' ∨ c = '\x27' then ['\\', c]
  else if ' ' ≤ c ∧ c ≤ '~' then [c]
  else if isCombining c ∨ !isPrintable c then codePointEscape c
  else [c]

/-- A byte that is no part of a character: `\x` and two digits. -/
def quotedByte (b : UInt8) : List Char :=
  ['\\', 'x', upperHexDigit (b.toNat / 16), upperHexDigit (b.toNat % 16)]

/-- A piece of a byte string inside quotation marks. -/
def quotedPiece : Piece → List Char
  | .scalar c => quotedChar c
  | .malformed bytes => bytes.flatMap quotedByte

/-- A byte string in quotation marks. -/
def quoted (bytes : Bytes) : List Char :=
  '"' :: (pieces bytes).flatMap quotedPiece ++ ['"']

/-- A list of byte strings: each in quotation marks, separated by a comma and a blank, in square
brackets. -/
def quotedList (items : List Bytes) : List Char :=
  '[' :: [',', ' '].intercalate (items.map quoted) ++ [']']

end CommandShell.Text
