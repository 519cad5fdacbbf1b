import CommandShell.Bytes

/-!
# Paragraphs broken into lines

The words of a paragraph are put on lines of about one length. What a way of breaking them costs is
a sum over its lines: for the bytes by which a line is off the length, for the difference to the
next line, and for breaks at bad places, such as after the first word of a sentence. The cheapest
way is found from the end of the paragraph on: for each word, the best rest that begins with it.
-/

namespace CommandShell.Text

/-- A word of a paragraph. -/
structure Vocable where
  /-- Its bytes. -/
  bytes : Bytes
  /-- How many they are. -/
  length : Nat
  /-- The room that follows it. -/
  space : Nat
  /-- Whether it ends like a sentence, apart from what closes behind. -/
  period : Bool
  /-- Whether it is the end of a sentence. -/
  final : Bool
deriving Inhabited

namespace Vocable

/-- Whether it begins with what opens. -/
def opens (w : Vocable) : Bool :=
  (w.bytes.head?.map (utf8 "(['\x60\"").contains).getD false

/-- Whether its last byte is neither a letter nor a digit. -/
def isPunctuated (w : Vocable) : Bool :=
  match w.bytes.getLast? with
  | some b => (0x21 ≤ b && b ≤ 0x2F) || (0x3A ≤ b && b ≤ 0x40) || (0x5B ≤ b && b ≤ 0x60) ||
      (0x7B ≤ b && b ≤ 0x7E)
  | none => false

/-- Whether the bytes of a word end like a sentence, apart from what closes behind. -/
def endsSentence (bytes : Bytes) : Bool :=
  let inner := (bytes.reverse.dropWhile (utf8 ")]'\"").contains).headD (bytes.headD 0)
  (utf8 ".?!").contains inner

end Vocable

/-- The lines that a paragraph is put on. -/
structure LineShape where
  /-- The length that lines are below. -/
  width : Nat
  /-- The length that they should have. -/
  goal : Nat
  /-- The indent of the first line. -/
  first : Nat
  /-- The indent of the others. -/
  others : Nat

/-- The best way to put the words from one on. -/
structure Break where
  /-- What it costs. -/
  cost : Int
  /-- The number of the first word of the next line. -/
  next : Nat
  /-- The length of the line. -/
  length : Nat
deriving Inhabited

namespace LineShape

/-- A square, as costs are. -/
def square (n : Int) : Int :=
  n * n

/-- What it costs that a line is off the goal. -/
def offCost (n : Int) : Int :=
  square (n * 10)

/-- What it costs that two lines differ. -/
def raggedCost (n : Int) : Int :=
  offCost n / 2

/-- What it costs that a line begins with a word. -/
def startCost (words : Array Vocable) (k : Nat) : Int :=
  let w := words[k]!
  let before : Int :=
    if k = 0 then 0
    else
      let last := words[k - 1]!
      if last.period then (if last.final then -square 50 else square 600)
      else if last.isPunctuated then -square 40
      else if 1 < k ∧ words[k - 2]!.final then square 200 / (last.length + 2)
      else 0
  let here : Int :=
    if w.opens then -square 40 else if w.final then square 150 / (w.length + 2) else 0
  square 70 + before + here

/-- What it costs that a line of a length ends in front of a word. -/
def endCost (shape : LineShape) (breaks : Array Break) (count next length : Nat) : Int :=
  if next = count then 0
  else
    let b := breaks[next]!
    offCost ((shape.goal : Int) - length) +
      if b.next = count then 0 else raggedCost ((length : Int) - b.length)

/-- The best line from a word on, out of those that end in front of a word or later. -/
def bestLine (shape : LineShape) (words : Array Vocable) (breaks : Array Break)
    (start before : Nat) :
    Nat → Nat → Nat → Option Break → Option Break
  | 0, _, _, best => best
  | fuel + 1, next, length, best =>
    let cost := endCost shape breaks words.size next length + (breaks[next]!).cost +
      if start = 0 ∧ before ≠ 0 then raggedCost ((length : Int) - before) else 0
    let best := match best with
      | some b => if cost < b.cost then some ⟨cost, next, length⟩ else some b
      | none => some ⟨cost, next, length⟩
    if next = words.size then best
    else
      let length := length + words[next - 1]!.space + words[next]!.length
      if length < shape.width then
        bestLine shape words breaks start before fuel (next + 1) length best
      else best

/-- The best ways to put words from each of them on, if the line before the first has a length. -/
def breaks (shape : LineShape) (words : Array Vocable) (before : Nat) : Array Break :=
  (List.range words.size).foldr (fun start found =>
    let indent := if start = 0 then shape.first else shape.others
    match bestLine shape words found start before (words.size + 1) (start + 1)
      (indent + words[start]!.length) none with
    | some b => found.set! start { b with cost := b.cost + startCost words start }
    | none => found) (Array.replicate (words.size + 1) ⟨0, words.size, 0⟩)

/-- The numbers of the words that lines begin with, from one on. -/
def starts (breaks : Array Break) (count : Nat) : Nat → Nat → List Nat
  | 0, _ => []
  | fuel + 1, k => if count ≤ k then [] else k :: starts breaks count fuel (breaks[k]!).next

/-- The word that a long paragraph is best cut at: the beginning of a line that adds little to the
costs, rather late than early. -/
def cutPoint (breaks : Array Break) (count : Nat) : Nat :=
  let step := fun (found : Nat × Option Int) (k : Nat) =>
    let b := breaks[k]!
    let added := b.cost - (breaks[b.next]!).cost
    let (point, best) := if found.2.all (added < ·) then (k, some added) else found
    (point, best.map (· + square 3))
  ((starts breaks count (count + 1) (breaks[0]!).next).foldl step (count, none)).1

end LineShape

end CommandShell.Text
