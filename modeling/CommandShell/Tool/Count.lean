import CommandShell.Tool.Ends

/-!
# Counting

The lines, words and bytes of files are counted, and the longest line is measured.
-/

namespace CommandShell.Tool

open Work

/-- What was counted. -/
structure Counts where
  /-- The number of newlines. -/
  lines : Nat
  /-- The number of words. -/
  words : Nat
  /-- The number of bytes. -/
  bytes : Nat
  /-- The width of the longest line. -/
  longest : Nat

/-- How far a file was counted. -/
structure Counting where
  /-- What was counted so far. -/
  counts : Counts
  /-- Whether the last byte belongs to a word. -/
  inWord : Bool
  /-- The width of the line so far. -/
  width : Nat

/-- Counts a byte. -/
def countByte (c : Counting) (b : UInt8) : Counting :=
  let n := { c.counts with bytes := c.counts.bytes + 1 }
  let ended : Counts := { n with longest := max n.longest c.width }
  if b = 0x0A then ⟨{ ended with lines := n.lines + 1 }, false, 0⟩
  else if b = 0x0D ∨ b = 0x0C then ⟨ended, false, 0⟩
  else if b = 0x09 then ⟨n, false, c.width + (8 - c.width % 8)⟩
  else if b = 0x20 then ⟨n, false, c.width + 1⟩
  else if b = 0x0B then ⟨n, false, c.width⟩
  else
    let n := if c.inWord then n else { n with words := n.words + 1 }
    ⟨n, true, if Quote.isShown b then c.width + 1 else c.width⟩

/-- Counts an open file. -/
def countFrom : Nat → Source → Counting → Work (Source × Counting)
  | 0, s, c => return (s, c)
  | fuel + 1, s, c => do
    let (bytes, s) ← s.chunk
    if bytes = [] then return (s, c)
    else countFrom fuel s (bytes.foldl countByte c)

/-- Which counts are written. -/
structure Columns where
  lines : Bool
  words : Bool
  chars : Bool
  bytes : Bool
  longest : Bool

namespace Columns

/-- The numbers that are written. -/
def select (c : Columns) (n : Counts) : List Nat :=
  let one := fun (wanted : Bool) (value : Nat) => if wanted then [value] else []
  one c.lines n.lines ++ one c.words n.words ++ one c.chars n.bytes ++ one c.bytes n.bytes ++
    one c.longest n.longest

end Columns

/-- A line with counts. -/
def countLine (c : Columns) (width : Nat) (n : Counts) (name : Option Bytes) : Bytes :=
  let shown := (c.select n).map fun k =>
    let digits := utf8 (toString k)
    List.replicate (width - digits.length) (0x20 : UInt8) ++ digits
  [0x20].intercalate (shown ++ name.toList) ++ [0x0A]

/-- The width of the numbers, from what is known of the files beforehand. -/
def countWidth (names : List Bytes) : Work Nat := do
  let facts ← names.mapM fun name =>
    if isInput name then call (.factsOf 0) else call (.facts name true)
  let known := facts.filterMap (·.toOption)
  let total := sumOf ((known.filter (·.kind = .file)).map (·.size))
  let least := if known.all (·.kind = .file) then 1 else 7
  return max least (toString total).length

/-- Counts files. -/
def wc (args : List Bytes) : Work Unit := do
  let f ← Options.read [.flag "c" "bytes", .flag "m" "chars", .flag "l" "lines",
    .flag "L" "max-line-length", .flag "w" "words", .valued "" "files0-from"] true 1 args
  let asked : Columns :=
    ⟨f.has "l", f.has "w", f.has "m", f.has "c", f.has "L"⟩
  let number := (asked.select ⟨0, 0, 0, 0⟩).length
  let columns := if number = 0 then ⟨true, true, false, true, false⟩ else asked
  let told ← match f.value? "files0-from" with
    | none => pure ((inputsOf f.operands).map .ok)
    | some source =>
      match f.operands with
      | extra :: _ => namedTwice 1 extra
      | [] =>
        match ← contentOf source with
        | .ok content => pure (namesIn source content)
        | .error e =>
          fail 1 (utf8 "cannot open " ++ Quote.shell source ++
            utf8 (" for reading: " ++ e.libraryText))
  let names := told.filterMap (·.toOption)
  let width ← if told.length = 1 ∧ number = 1 then pure 1 else countWidth names
  let isNamed := f.operands ≠ [] ∨ f.has "files0-from"
  let mut total : Counts := ⟨0, 0, 0, 0⟩
  for item in told do
    let name ← match item with
      | .ok name => pure name
      | .error what => do
        complain what
        continue
    match ← openInput name with
    | .error e => complainOf (Quote.name name) e
    | .ok fd =>
      let (s, c) ← countFrom Source.portions (.ofOpen fd) ⟨⟨0, 0, 0, 0⟩, false, 0⟩
      closeInput name fd
      match s.failure with
      | some e => complainOf (if isNamed then Quote.name name else utf8 "'standard input'") e
      | none => pure ()
      let n := { c.counts with longest := max c.counts.longest c.width }
      put (countLine columns width n (if isNamed then some name else none))
      let _ ← flush
      total := ⟨total.lines + n.lines, total.words + n.words, total.bytes + n.bytes,
        max total.longest n.longest⟩
  if 1 < told.length then put (countLine columns width total (some (utf8 "total")))
  leaveInput [0x2D] names

end CommandShell.Tool
