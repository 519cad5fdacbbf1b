import CommandShell.Text.Paragraph
import CommandShell.Tool.Input
import CommandShell.Tool.Number
import CommandShell.Tool.Words

/-!
# Files with their paragraphs broken anew

Lines that begin alike and follow each other are a paragraph, and are filled anew. Empty lines, and
lines that do not begin as they should, stay as they are. An option says which lines belong together
by their indents.
-/

namespace CommandShell.Tool

open Work

namespace Paragraphs

/-- How paragraphs are told apart and filled. -/
structure Manner where
  /-- The second line decides on the indent of those after it. -/
  crown : Bool
  /-- The first line has another indent than the second. -/
  tagged : Bool
  /-- Lines are broken but not joined. -/
  splits : Bool
  /-- There is one blank between words, and two after sentences. -/
  uniform : Bool
  /-- The length that lines are below. -/
  width : Nat
  /-- The length that they should have. -/
  goal : Nat
  /-- What all lines to be filled begin with, without blanks around it. -/
  mark : Bytes
  /-- The number of blanks in front of that. -/
  lead : Nat
  /-- The number of bytes with the blanks behind that. -/
  full : Nat

/-- How far a file has been read and written. -/
structure State where
  /-- What is left of the file. -/
  rest : Bytes
  /-- The column of the next byte. -/
  column : Nat
  /-- The indent of the mark of the line. -/
  nextIndent : Nat
  /-- The indent of the mark of the paragraph. -/
  markIndent : Nat
  /-- The indent of the first line of the paragraph. -/
  firstIndent : Nat
  /-- The indent of its other lines. -/
  otherIndent : Nat
  /-- Whether a tab was read. -/
  tabs : Bool
  /-- The words of the paragraph, last first. -/
  words : List Text.Vocable
  /-- How many they are. -/
  count : Nat
  /-- The number of their bytes. -/
  size : Nat
  /-- The length of the line that was written last. -/
  lastLength : Nat
  /-- What is written, last piece first. -/
  output : List Bytes

/-- The numbers of words and of bytes that a paragraph has before some of it is written. -/
def limits : Nat × Nat := (998, 5000)

/-- The column after a tab. -/
def afterTab (column : Nat) : Nat :=
  (column / 8 + 1) * 8

/-- Passes over blanks and tabs. -/
def skip : Nat → State → State
  | 0, s => s
  | fuel + 1, s =>
    match s.rest with
    | 0x20 :: rest => skip fuel { s with rest := rest, column := s.column + 1 }
    | 0x09 :: rest => skip fuel { s with rest := rest, column := afterTab s.column, tabs := true }
    | _ => s

/-- Passes over blanks and tabs. -/
def pass (s : State) : State :=
  skip (s.rest.length + 1) s

/-- Reads a mark as far as it is there; the answer is whether all of it is. -/
def readMark : Bytes → State → State × Bool
  | [], s => (s, true)
  | b :: mark, s =>
    match s.rest with
    | c :: rest =>
      if c = b then readMark mark { s with rest := rest, column := s.column + 1 } else (s, false)
    | [] => (s, false)

/-- Reads the beginning of a line, up to what follows its mark. -/
def readFront (m : Manner) (s : State) : State :=
  let s := pass { s with column := 0 }
  if m.mark = [] then { s with nextIndent := min m.lead s.column }
  else
    let (s, whole) := readMark m.mark { s with nextIndent := s.column }
    if whole then pass s else s

/-- Reads the beginning of the next line. -/
def nextLine (m : Manner) (s : State) : State :=
  readFront m { s with rest := s.rest.tail }

/-- Whether the line ends here. -/
def atEnd (s : State) : Bool :=
  s.rest = [] || s.rest.head? = some 0x0A

/-- Whether the line belongs to the paragraph, as far as its mark says. -/
def isSame (m : Manner) (s : State) : Bool :=
  s.nextIndent = s.markIndent && s.nextIndent + m.full ≤ s.column && !atEnd s

/-- Room from a column on. Tabs are used if there were some. -/
def room (tabs : Bool) (column space : Nat) : Bytes :=
  let target := column + space
  let stop := target / 8 * 8
  if tabs ∧ column + 1 < stop then
    List.replicate ((stop - column + 7) / 8) 0x09 ++ List.replicate (target - stop) 0x20
  else List.replicate space 0x20

/-- Sets the indent of the lines after the first, which may or may not go on in the paragraph. -/
def setIndent (m : Manner) (same : Bool) (s : State) : State :=
  if m.splits then { s with otherIndent := s.firstIndent }
  else if m.crown then { s with otherIndent := if same then s.column else s.firstIndent }
  else if m.tagged then
    if same ∧ s.column ≠ s.firstIndent then { s with otherIndent := s.column }
    else if s.otherIndent = s.firstIndent then
      { s with otherIndent := if s.firstIndent = 0 then 3 else 0 }
    else s
  else { s with otherIndent := s.firstIndent }

/-- A line of words, and its length. -/
def lineOf (m : Manner) (s : State) (indent : Nat) (words : List Text.Vocable) : Bytes × Nat :=
  let front := room s.tabs 0 s.markIndent ++ m.mark
  let column := s.markIndent + m.mark.length
  let front := front ++ room s.tabs column (indent - column)
  go words front (max indent column)
where
  /-- The line with the words after a part of it. -/
  go : List Text.Vocable → Bytes → Nat → Bytes × Nat
    | [], done, column => (done, column)
    | [w], done, column => (done ++ w.bytes, column + w.length)
    | w :: rest, done, column =>
      let column := column + w.length
      go rest (done ++ w.bytes ++ room s.tabs column w.space) (column + w.space)

/-- Writes the lines of some words that begin with certain ones. -/
def writeLines (m : Manner) (words : Array Text.Vocable) :
    List Nat → Nat → Nat → State → State
  | [], _, _, s => s
  | start :: rest, finish, indent, s =>
    let next := rest.headD finish
    let (line, length) := lineOf m s indent (words.extract start next).toList
    writeLines m words rest finish s.otherIndent
      { s with output := [0x0A] :: line :: s.output, lastLength := length }

/-- What lines are to be like. -/
def shape (m : Manner) (s : State) : Text.LineShape :=
  ⟨m.width, m.goal, s.firstIndent, s.otherIndent⟩

/-- Writes the words. -/
def writeParagraph (m : Manner) (s : State) : State :=
  let words := s.words.reverse.toArray
  let breaks := (shape m s).breaks words s.lastLength
  let starts := Text.LineShape.starts breaks words.size (words.size + 1) 0
  { writeLines m words starts words.size s.firstIndent s with words := [], count := 0, size := 0 }

/-- Writes some of a long paragraph, up to where it is best cut. -/
def writeSome (m : Manner) (s : State) : State :=
  let s := setIndent m true s
  let words := s.words.reverse.toArray
  let breaks := (shape m s).breaks words s.lastLength
  let cut := Text.LineShape.cutPoint breaks words.size
  let starts := (Text.LineShape.starts breaks words.size (words.size + 1) 0).filter (· < cut)
  let kept := words.toList.drop cut
  let s := writeLines m words starts cut s.firstIndent s
  { s with
    words := kept.reverse
    count := kept.length
    size := kept.foldl (fun n w => n + w.length) 0 }

/-- Whether a byte ends a word. -/
def isSpace (b : UInt8) : Bool :=
  b = 0x20 || (0x09 ≤ b && b ≤ 0x0D)

/-- Reads the rest of a word; its bytes so far are known, last first. Its first byte may be any. -/
def readWord (m : Manner) : Nat → Bytes → State → State × Bytes
  | 0, done, s => (s, done.reverse)
  | fuel + 1, done, s =>
    match s.rest with
    | [] => (s, done.reverse)
    | b :: rest =>
      if done ≠ [] ∧ isSpace b then (s, done.reverse)
      else if s.size + 1 ≤ limits.2 then
        readWord m fuel (b :: done) { s with rest := rest, size := s.size + 1 }
      else if s.count = 0 then
        readWord m fuel [b] { s with
          rest := rest, size := 1, output := done.reverse :: (setIndent m true s).output }
      else
        let s := writeSome m s
        readWord m fuel (b :: done) { s with rest := rest, size := s.size + done.length + 1 }

/-- Reads the words of a line, and the beginning of the next line. -/
def readWords (m : Manner) : Nat → State → State
  | 0, s => s
  | fuel + 1, s =>
    let (s, bytes) := readWord m (s.rest.length + 1) [] s
    let start := s.column + bytes.length
    let s := pass { s with column := start }
    let period := Text.Vocable.endsSentence bytes
    let space := s.column - start
    let final := s.rest = [] || (period && (s.rest.head? = some 0x0A || 1 < space))
    let space := if atEnd s ∨ m.uniform then (if final then 2 else 1) else space
    let s := if s.count = limits.1 then
        let s := writeSome m s
        { s with size := s.size + bytes.length }
      else s
    let s := { s with
      words := ⟨bytes, bytes.length, space, period, final⟩ :: s.words
      count := s.count + 1 }
    if atEnd s then nextLine m s else readWords m fuel s

/-- Reads lines as long as they belong to the paragraph. -/
def readLines (m : Manner) (belongs : State → Bool) : Nat → State → State
  | 0, s => s
  | fuel + 1, s =>
    if isSame m s ∧ belongs s then
      readLines m belongs fuel (readWords m (s.rest.length + 1) s)
    else s

/-- Reads a paragraph from the beginning of its first line on. -/
def readParagraph (m : Manner) (s : State) : State :=
  let s := { s with
    markIndent := s.nextIndent
    firstIndent := s.column
    words := []
    count := 0
    size := 0 }
  let s := readWords m (s.rest.length + 1) s
  let s := setIndent m (isSame m s) s
  let fuel := s.rest.length + 1
  let sameIndent := fun (t : State) => t.column = t.otherIndent
  let more := fun (s : State) =>
    if isSame m s then readLines m sameIndent fuel (readWords m fuel s) else s
  let s := if m.splits then s
    else if m.crown then more s
    else if m.tagged then (if s.column ≠ s.firstIndent then more s else s)
    else readLines m sameIndent fuel s
  match s.words with
  | last :: rest => { s with words := { last with period := true, final := true } :: rest }
  | [] => s

/-- Writes a line as it is, without its end. -/
def copyLine (m : Manner) (s : State) : State :=
  let body := s.rest.takeWhile (· ≠ 0x0A)
  let rest := s.rest.drop body.length
  let front := if s.nextIndent < s.column ∨ body ≠ [] then
      let lead := room s.tabs 0 s.nextIndent
      let mark := m.mark.take (s.column - s.nextIndent)
      let column := s.nextIndent + mark.length
      lead ++ mark ++ (if body ≠ [] then room s.tabs column (s.column - column) else []) ++
        (if s.rest = [] ∧ s.nextIndent + m.mark.length ≤ s.column then [0x0A] else [])
    else []
  { s with rest := rest, output := body :: front :: s.output }

/-- Fills the paragraphs of a file. -/
def fill (m : Manner) : Nat → State → State
  | 0, s => s
  | fuel + 1, s =>
    if atEnd s ∨ s.nextIndent < m.lead ∨ s.column < s.nextIndent + m.full then
      let s := copyLine m { s with lastLength := 0 }
      if s.rest = [] then s
      else fill m fuel (nextLine m { s with output := [0x0A] :: s.output })
    else fill m fuel (writeParagraph m (readParagraph m { s with lastLength := 0 }))

/-- The text of a file with its paragraphs filled. -/
def filled (m : Manner) (text : Bytes) : Bytes :=
  let s := readFront m ⟨text, 0, 0, 0, 0, 0, false, [], 0, 0, 0, []⟩
  (fill m (text.length + 2) s).output.reverse.flatten

/-- The width that a text asks for, up to a greatest one. -/
def widthOf (greatest : Nat) (text : Bytes) : Work Nat := do
  match Amount.ofText "" text with
  | .number n =>
    if greatest < n then
      fail 1 (utf8 "invalid width: " ++ Quote.plain text ++
        utf8 (": " ++ Errno.outOfRange.libraryText))
    return n
  | .excessive =>
    fail 1 (utf8 "invalid width: " ++ Quote.plain text ++
      utf8 (": " ++ Errno.valueTooLarge.libraryText))
  | .invalid => fail 1 (utf8 "invalid width: " ++ Quote.plain text)

/-- Arguments in which a width as the first option is one after the option for it. -/
def arguments : List Bytes → List Bytes
  | (0x2D :: b :: rest) :: others =>
    if Amount.isDigit b then utf8 "-w" :: (b :: rest) :: others else (0x2D :: b :: rest) :: others
  | args => args

end Paragraphs

/-- Fills the paragraphs of files anew. -/
def fmt (args : List Bytes) : Work Unit := do
  let digits := (List.range 10).map fun d => Switch.flag (toString d) ""
  let f ← Options.read (digits ++ [.flag "c" "crown-margin", .flag "s" "split-only",
    .flag "t" "tagged-paragraph", .flag "u" "uniform-spacing", .valued "w" "width",
    .valued "g" "goal", .valued "p" "prefix"]) true 1 (Paragraphs.arguments args)
  match f.given.find? fun g => g.key.all Char.isDigit with
  | some g =>
    misused 1
      (utf8 (s!"invalid option -- {g.key}; -WIDTH is recognized only when it is the first\n" ++
        "option; use -w N instead"))
  | none => pure ()
  let width ← match f.value? "w" with
    | some text => do pure (some (← Paragraphs.widthOf 2500 text))
    | none => pure none
  let (width, goal) ← match f.value? "g" with
    | some text => do
      let goal ← Paragraphs.widthOf (width.getD 75) text
      pure (width.getD (goal + 10), goal)
    | none => pure (width.getD 75, width.getD 75 * 187 / 200)
  let whole := (f.value? "p").getD []
  let body := whole.dropWhile (· = 0x20)
  let mark := (body.reverse.dropWhile (· = 0x20)).reverse
  let m : Paragraphs.Manner := ⟨f.has "c", f.has "t", f.has "s", f.has "u", width, goal, mark,
    whole.length - body.length, body.length⟩
  for name in inputsOf f.operands do
    match ← openInput name with
    | .error e =>
      complain (utf8 "cannot open " ++ Quote.shell name ++ utf8 (" for reading: " ++ e.libraryText))
    | .ok fd =>
      let (text, s) ← (Source.ofOpen fd).rest
      put (Paragraphs.filled m text)
      closeInput name fd
      if s.failure.isSome then complain (utf8 "read error")

end CommandShell.Tool
