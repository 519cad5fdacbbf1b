import CommandShell.Tool.Number

/-!
# How sizes are written

A size is written as a number of units, or in short: with a letter for a power of 1000 or 1024, and
with a decimal if the number in front of the letter is small. What does not come out even is rounded
up, so that no size looks smaller than it is.
-/

namespace CommandShell.Tool

/-- How a size is written. -/
inductive Scale where
  /-- In units of so many bytes, with something behind the number. -/
  | units (size : Nat) (behind : Bytes)
  /-- In short, with powers of a base. -/
  | short (base : Nat)
deriving DecidableEq

namespace Scale

/-- A number as digits. -/
def decimal (n : Nat) : Bytes :=
  utf8 (toString n)

/-- A quotient, rounded up. -/
def upward (n unit : Nat) : Nat :=
  (n + unit - 1) / unit

/-- A size in short: so many units, where the letters for the next greater ones are given. -/
def inShort (base : Nat) (n : Nat) : Nat → List UInt8 → Bytes
  | unit, [] => decimal (upward n unit)
  | unit, [letter] => decimal (upward n unit) ++ [letter]
  | unit, letter :: next =>
    let whole := upward n unit
    if base ≤ whole then inShort base n (unit * base) next
    else
      let tenths := upward (n * 10) unit
      if tenths < 100 then decimal (tenths / 10) ++ 0x2E :: decimal (tenths % 10) ++ [letter]
      else decimal whole ++ [letter]

/-- A size as it is written. -/
def shown (s : Scale) (n : Nat) : Bytes :=
  match s with
  | units size behind => decimal (upward n size) ++ behind
  | short base =>
    if n < base then decimal n
    else inShort base n base (utf8 (if base = 1024 then "KMGTPEZY" else "kMGTPEZY"))

/-- The way of writing sizes that a text asks for: a unit, or to be short. A unit without a number
is shown behind the sizes. -/
def ofText? (text : Bytes) : Option Scale :=
  if text = utf8 "human-readable" then some (short 1024)
  else if text = utf8 "si" then some (short 1000)
  else
    match Amount.ofText "KMGTPEZYkmgt" text with
    | .number n =>
      if n = 0 then none
      else
        let plain := text.head?.any Amount.isDigit
        some (units n (if plain then [] else if text = utf8 "k" then utf8 "K" else text))
    | _ => none

end Scale

end CommandShell.Tool
