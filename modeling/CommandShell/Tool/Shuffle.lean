import CommandShell.Text.Choice
import CommandShell.Tool.Input
import CommandShell.Tool.Number
import CommandShell.Tool.Words

/-!
# Lines in a random order

The lines of a file, words or the numbers of a range are written in a random order, all of them or
some, or chosen again and again.
-/

namespace CommandShell.Tool

open Work

namespace Shuffle

/-- What is chosen from. -/
inductive Items where
  /-- Lines. -/
  | lines (all : Array Bytes)
  /-- Numbers in a row. -/
  | range (first count : Nat)

/-- How many there are. -/
def Items.count : Items → Nat
  | lines all => all.size
  | range _ count => count

/-- An item. -/
def Items.shown (items : Items) (n : Nat) : Bytes :=
  match items with
  | lines all => all.getD n []
  | range first _ => utf8 (toString (first + n))

/-- Says that a file has no more random bytes. -/
def exhausted {α : Type} (source : Option Bytes) : Work α :=
  fail 1 (Quote.plain (source.getD []) ++ utf8 ": end of file")

/-- Writes an item. What is wrong with the output ends the work. -/
def write (ending : UInt8) (item : Bytes) : Work Unit := do
  match ← putChecked (item ++ [ending]) with
  | none => return ()
  | some e =>
    emit ((← get).name ++ utf8 (": write error: " ++ e.libraryText ++ "\n"))
    modify fun d => { d with refused := false }
    exit 1

/-- Writes items, each chosen from all. -/
def writeRepeated (source : Option Bytes) (ending : UInt8) (items : Items) :
    Nat → Text.Chooser → Work Unit
  | 0, _ => return ()
  | count + 1, c => do
    match c.below? items.count with
    | none => exhausted source
    | some (n, c) =>
      write ending (items.shown n)
      writeRepeated source ending items count c

/-- Lines of which only so many are kept, each as likely as any other. A choice is made before it is
known that no line follows. -/
def sample (kept : Nat) : List Bytes → Nat → Array Bytes → Text.Chooser →
    Option (Array Bytes × Text.Chooser)
  | lines, passed, found, c =>
    match lines with
    | [] =>
      if passed < kept then some (found, c)
      else (c.below? (passed + 1)).map fun (_, c) => (found, c)
    | l :: rest =>
      if passed < kept then sample kept rest (passed + 1) (found.push l) c
      else
        match c.below? (passed + 1) with
        | none => none
        | some (n, c) => sample kept rest (passed + 1) (found.setIfInBounds n l) c

/-- The first and the last number of a range, if that is what a text says. -/
def rangeOf (text : Bytes) : Work (Nat × Nat) := do
  let wrong : Bytes := utf8 "invalid input range: " ++ Quote.plain text
  let tooGreat : Bytes := wrong ++ utf8 (": " ++ Errno.valueTooLarge.libraryText)
  let body := text.dropWhile fun b => b = 0x20 || (0x09 ≤ b && b ≤ 0x0D)
  let body := match body with
    | 0x2B :: rest => rest
    | _ => body
  let first := body.takeWhile Amount.isDigit
  if first.isEmpty then fail 1 wrong
  if Amount.greatest < Amount.count first then fail 1 tooGreat
  match body.drop first.length with
  | 0x2D :: rest =>
    match Amount.ofText "" rest with
    | .number last =>
      if last < Amount.count first ∧ last + 1 ≠ Amount.count first then fail 1 wrong
      return (Amount.count first, last)
    | .excessive => fail 1 tooGreat
    | .invalid => fail 1 wrong
  | _ => fail 1 wrong

end Shuffle

/-- Writes lines, words or numbers in a random order. -/
def shuf (args : List Bytes) : Work Unit := do
  let f ← Options.read [.flag "e" "echo", .valued "i" "input-range", .valued "n" "head-count",
    .valued "o" "output", .valued "" "random-source", .flag "r" "repeat",
    .flag "z" "zero-terminated"] true 1 args
  let mut range : Option (Nat × Nat) := none
  let mut most : Option Nat := none
  let mut output : Option Bytes := none
  let mut source : Option Bytes := none
  for g in f.given do
    let value := g.value.getD []
    match g.key with
    | "i" =>
      if range.isSome then fail 1 (utf8 "multiple -i options specified")
      range := some (← Shuffle.rangeOf value)
    | "n" =>
      match Amount.ofText "" value with
      | .number n => most := some (min n (most.getD n))
      | .excessive => pure ()
      | .invalid => fail 1 (utf8 "invalid line count: " ++ Quote.plain value)
    | "o" =>
      if output.any (· ≠ value) then fail 1 (utf8 "multiple output files specified")
      output := some value
    | "random-source" =>
      if source.any (· ≠ value) then fail 1 (utf8 "multiple random sources specified")
      source := some value
    | _ => pure ()
  if f.has "e" ∧ range.isSome then misused 1 (utf8 "cannot combine -e and -i options")
  let extra := if range.isSome then f.operands else if f.has "e" then [] else f.operands.drop 1
  match extra with
  | word :: _ => extraOperand 1 word
  | [] => pure ()
  let ending : UInt8 := if f.has "z" then 0 else 0x0A
  let name := f.operands.headD [0x2D]
  let mut sampled := false
  let mut items : Shuffle.Items := .lines #[]
  if most = some 0 then pure ()
  else
    match range with
    | some (first, last) => items := .range first (last + 1 - first)
    | none =>
      if f.has "e" then items := .lines f.operands.toArray
      else
        match ← openInput name with
        | .error e => fail 1 (Quote.name name ++ utf8 (": " ++ e.libraryText))
        | .ok fd =>
          match ← call (.factsOf fd) with
          | .ok facts => sampled := most.isSome && !f.has "r" && facts.kind ≠ .file
          | .error _ => pure ()
          let (text, s) ← (Source.ofOpen fd).rest
          match s.failure with
          | some e => fail 1 (utf8 ("read error: " ++ e.libraryText))
          | none => pure ()
          closeInput name fd
          items := .lines ((linesOf ending text).map (·.bytes)).toArray
  let bytes ← match source with
    | some path =>
      match ← call (.openFile path .reading) with
      | .error e => fail 1 (Quote.name path ++ utf8 (": " ++ e.libraryText))
      | .ok fd => do
        match ← call (.facts path true) with
        | .ok facts =>
          if facts.kind = .file then pure (Text.RandomBytes.text (← (Source.ofOpen fd).rest).1)
          else pure (Text.RandomBytes.text (List.replicate 0x10000 0))
        | .error _ => pure (Text.RandomBytes.text [])
    | none => do
      let (pid, _) ← call .self
      let now : Nat ← call .time
      pure (Text.RandomBytes.computed (now * 7919 + pid).toUInt64)
  let chooser := Text.Chooser.ofBytes bytes
  let (chosen, chooser) ← match items, sampled with
    | .lines all, true =>
      match Shuffle.sample (most.getD 0) all.toList 0 #[] chooser with
      | some (kept, c) => pure (Shuffle.Items.lines kept, c)
      | none => Shuffle.exhausted source
    | _, _ => pure (items, chooser)
  let redirect : Work Unit := do
    match output with
    | none => pure ()
    | some path =>
      match ← call (.openFile path .writing) with
      | .ok fd =>
        let _ ← call (.redirect fd 1)
        let _ ← call (.close fd)
      | .error e => fail 1 (Quote.name path ++ utf8 (": " ++ e.libraryText))
  if f.has "r" then
    redirect
    if most ≠ some 0 then
      if chosen.count = 0 then fail 1 (utf8 "no lines to repeat")
      Shuffle.writeRepeated source ending chosen (most.getD 0x1000000000) chooser
  else
    let count := min (most.getD chosen.count) chosen.count
    let shuffled := if count = 0 then some (#[], chooser)
      else if count = 1 then (chooser.below? chosen.count).map fun (n, c) => (#[n], c)
      else Text.Chooser.shuffle? count 0 (Array.range chosen.count) chooser
    match shuffled with
    | none => Shuffle.exhausted source
    | some (places, _) =>
      redirect
      for n in places.toList.take count do
        Shuffle.write ending (chosen.shown n)

end CommandShell.Tool
