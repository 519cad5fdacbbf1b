import CommandShell.Bytes

/-!
# Fair choices from bytes

Random bytes are turned into numbers below a bound, so that each of them is as likely as any other.
What a choice leaves of the randomness of its bytes goes into the next one. The bytes come from a
text that may come to an end, or are computed one from the other.
-/

namespace CommandShell.Text

/-- Where random bytes come from. -/
inductive RandomBytes where
  /-- A text. -/
  | text (rest : Bytes)
  /-- A number from which the next one is computed. -/
  | computed (state : UInt64)

/-- The next byte, if there is one. -/
def RandomBytes.next? : RandomBytes → Option (UInt8 × RandomBytes)
  | text [] => none
  | text (b :: rest) => some (b, text rest)
  | computed state =>
    let state := state * 6364136223846793005 + 1442695040888963407
    some ((state >>> 56).toUInt8, computed state)

/-- Random numbers. -/
structure Chooser where
  /-- The bytes that are not used yet. -/
  source : RandomBytes
  /-- A random number that is left over. -/
  left : Nat
  /-- The greatest number that it might be. -/
  most : Nat

namespace Chooser

/-- Numbers from bytes. -/
def ofBytes (source : RandomBytes) : Chooser :=
  ⟨source, 0, 0⟩

/-- Takes bytes until what is left over might be as great as a number. -/
def fill (greatest : Nat) : Nat → Chooser → Option Chooser
  | 0, c => some c
  | fuel + 1, c =>
    if greatest ≤ c.most then some c
    else
      match c.source.next? with
      | none => none
      | some (b, source) =>
        fill greatest fuel ⟨source, c.left * 256 + b.toNat, c.most * 256 + 255⟩

/-- A number up to a greatest one, unless the bytes come to an end. A number from the part of the
range that is not a whole number of times as long as that of the choices is not used. -/
def upTo? (greatest : Nat) : Nat → Chooser → Option (Nat × Chooser)
  | 0, _ => none
  | fuel + 1, c =>
    match c.fill greatest 9 with
    | none => none
    | some c =>
      let choices := greatest + 1
      let excess := c.most - greatest
      let unusable := excess % choices
      if c.left ≤ c.most - unusable then
        some (c.left % choices, ⟨c.source, c.left / choices, excess / choices⟩)
      else upTo? greatest fuel ⟨c.source, c.left % choices, unusable - 1⟩

/-- A number below another one. -/
def below? (n : Nat) (c : Chooser) : Option (Nat × Chooser) :=
  c.upTo? (n - 1) 0x10000

/-- Exchanges the items at places from one on with those at places chosen at random, so many
times. -/
def shuffle? {α : Type} : Nat → Nat → Array α → Chooser → Option (Array α × Chooser)
  | 0, _, items, c => some (items, c)
  | count + 1, place, items, c =>
    match c.below? (items.size - place) with
    | none => none
    | some (n, c) => shuffle? count (place + 1) (items.swapIfInBounds place (place + n)) c

end Chooser

end CommandShell.Text
