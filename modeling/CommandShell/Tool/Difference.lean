import CommandShell.Text.EditScript
import CommandShell.Text.Regex
import CommandShell.Tool.Input
import CommandShell.Tool.Words

/-!
# Comparing files

Two files are compared byte by byte, or line by line, with a description of how one of them becomes
the other. Directories are compared by their entries.
-/

namespace CommandShell.Tool

open Work

namespace Comparing

/-- Says where help is to be found, and ends. -/
def refer {α : Type} : Work α := do
  say (utf8 "Try '" ++ (← get).name ++ utf8 " --help' for more information.")
  exit 2

/-- A complaint about how the tool was called, and the end of the work. -/
def misused {α : Type} (what : Bytes) : Work α := do
  say what
  refer

/-- Writes the output so far; if it is not taken, the work ends. -/
def finish : Work Unit := do
  match ← flush with
  | none => return ()
  | some e =>
    modify fun d => { d with refused := false }
    fail 2 (utf8 ("standard output: " ++ e.libraryText))

/-- Two entries are the same one. -/
def areSame (a b : Bytes) : Work Bool := do
  let x : Except Errno Facts ← if isInput a then call (.factsOf 0) else call (.facts a true)
  let y : Except Errno Facts ← if isInput b then call (.factsOf 0) else call (.facts b true)
  match x, y with
  | .ok f, .ok g => return f.location = g.location
  | _, _ => return false

/-! ### Byte by byte -/

/-- How bytes are compared. -/
structure ByteManner where
  /-- Every difference is written. -/
  all : Bool
  /-- The bytes are shown. -/
  shows : Bool
  /-- Nothing is written. -/
  silent : Bool

/-- A byte as it is shown. -/
def shown (b : UInt8) : Bytes :=
  let low := fun (b : UInt8) =>
    if b < 0x20 then [0x5E, b + 0x40] else if b = 0x7F then [0x5E, 0x3F] else [b]
  if b < 0x80 then low b else utf8 "M-" ++ low (b - 0x80)

/-- A text with blanks in front up to a width. -/
def padded (width : Nat) (text : Bytes) : Bytes :=
  List.replicate (width - text.length) 0x20 ++ text

/-- A byte in base eight. -/
def octal (b : UInt8) : Bytes :=
  padded 3 (utf8 (String.ofList (Nat.toDigits 8 b.toNat)))

/-- The differences at places that both contents have, by the numbers of the bytes. -/
def byteDifferences : Nat → Bytes → Bytes → List (Nat × UInt8 × UInt8)
  | n, a :: as, b :: bs =>
    if a = b then byteDifferences (n + 1) as bs else (n, a, b) :: byteDifferences (n + 1) as bs
  | _, _, _ => []

/-- Says that a file ends before the other one. The differences up to there are still to be
written. -/
def reportEnd (m : ByteManner) (name content : Bytes) : Work Unit := do
  if !m.silent then
    emit ((← get).name ++ utf8 ": EOF on " ++ name)
    if content = [] then emit (utf8 " which is empty\n")
    else
      let lines := content.count 0x0A
      let place :=
        if m.all then ""
        else if content.getLast? = some 0x0A then s!", line {lines}"
        else s!", in line {lines + 1}"
      emit (utf8 (s!" after byte {content.length}" ++ place ++ "\n"))
  fault 1

/-- Compares two contents. -/
def compareBytes (m : ByteManner) (one two a b : Bytes) : Work Unit := do
  let found := byteDifferences 1 a b
  let end_ : Work Unit :=
    if a.length < b.length then reportEnd m one a
    else if b.length < a.length then reportEnd m two b
    else return ()
  match found with
  | [] => end_
  | (n, x, y) :: _ =>
    fault 1
    if m.silent then return ()
    else if m.all then
      let width := (toString (min a.length b.length)).length
      for (n, x, y) in found do
        let text := fun (b : UInt8) =>
          if m.shows then
            let t := shown b
            0x20 :: t ++ List.replicate (4 - t.length) 0x20
          else []
        let last := if m.shows then 0x20 :: shown y else []
        putLine (padded width (utf8 (toString n)) ++ 0x20 :: octal x ++ text x ++ 0x20 :: octal y ++
          last)
      end_
    else
      let line := (a.take (n - 1)).count 0x0A + 1
      let word := if m.shows then "byte" else "char"
      let bytes := if m.shows then
          utf8 " is " ++ octal x ++ 0x20 :: shown x ++ 0x20 :: octal y ++ 0x20 :: shown y
        else []
      putLine (one ++ 0x20 :: two ++ utf8 s!" differ: {word} {n}, line {line}" ++ bytes)

/-- The letters of units of sizes. -/
def units : String := "kKMGTPEZY0"

/-- The number that an option has. -/
def size (option : String) (text : Bytes) : Work Nat :=
  match Amount.ofText units text with
  | .number n => if text = [] then wrong else return n
  | .excessive => return Amount.greatest
  | .invalid => wrong
where
  /-- What is said if there is none. -/
  wrong : Work Nat :=
    misused (utf8 ("invalid --" ++ option ++ " value ") ++ Quote.plain text)

end Comparing

open Comparing in
/-- Compares two files byte by byte. -/
def cmp (args : List Bytes) : Work Unit := do
  let f ← Options.readOr Comparing.refer [.flag "b" "print-bytes", .flag "c" "print-chars",
    .valued "i" "ignore-initial", .flag "l" "verbose", .valued "n" "bytes", .flag "s" "silent",
    .flag "s" "quiet"] true args
  let m : ByteManner := ⟨f.has "l", f.has "b" || f.has "c", f.has "s"⟩
  let skips ← match f.value? "i" with
    | none => pure (0, 0)
    | some text =>
      let front := text.takeWhile (· ≠ 0x3A)
      let rest := text.drop front.length
      if front = [] ∧ rest = [0x3A] then
        Comparing.misused (utf8 "invalid --ignore-initial value " ++ Quote.plain text)
      let a ← size "ignore-initial" front
      let b ← if rest = [] then pure a else size "ignore-initial" rest.tail
      pure (a, b)
  let limit ← f.value? "n" |>.mapM (size "bytes")
  if m.all ∧ m.silent then Comparing.misused (utf8 "options -l and -s are incompatible")
  let (one, two, skips) ← match f.operands with
    | [] =>
      let last := args.getLastD (← get).name
      Comparing.misused (utf8 "missing operand after " ++ Quote.plain last)
    | [a] => pure (a, [0x2D], skips)
    | [a, b] => pure (a, b, skips)
    | [a, b, s] => do pure (a, b, (max skips.1 (← size "ignore-initial" s), skips.2))
    | [a, b, s, t] => do
      let s ← size "ignore-initial" s
      let t ← size "ignore-initial" t
      pure (a, b, (max skips.1 s, max skips.2 t))
    | _ :: _ :: _ :: _ :: extra :: _ =>
      Comparing.misused (utf8 "extra operand " ++ Quote.plain extra)
  if skips.1 = skips.2 then
    if ← areSame one two then return ()
  for name in [one, two] do
    let known : Except Errno Facts ←
      if isInput name then call (.factsOf 0) else call (.facts name true)
    match known with
    | .error e =>
      if !m.silent then say (name ++ utf8 (": " ++ e.libraryText))
      exit 2
    | .ok _ => pure ()
  let content : Bytes → Nat → Work Bytes := fun name skip => do
    match ← contentOf name with
    | .ok bytes =>
      let rest := bytes.drop skip
      match limit with
      | some n => return rest.take n
      | none => return rest
    | .error e =>
      if !m.silent ∨ e = .isDirectory then say (name ++ utf8 (": " ++ e.libraryText))
      exit 2
  let a ← content one skips.1
  let b ← content two skips.2
  compareBytes m one two a b
  Comparing.finish

/-! ### Line by line -/

namespace Comparing

/-- How differences are written. -/
inductive Layout where
  /-- As commands with the lines. -/
  | plain
  /-- With so many lines around them, the lines of both files in one piece. -/
  | joined (around : Nat)
  /-- With so many lines around them, each file in a piece of its own. -/
  | apart (around : Nat)

/-- How lines are compared. -/
structure LineManner where
  /-- How differences are written. -/
  layout : Layout
  /-- Only it is said whether files differ. -/
  brief : Bool
  /-- It is said if files do not differ. -/
  tellsSame : Bool
  /-- Directories in directories are compared. -/
  recursive : Bool
  /-- Files that are not there count as empty. -/
  missingIsEmpty : Bool
  /-- Every file is a text. -/
  text : Bool
  /-- Upper and lower case are the same. -/
  folds : Bool
  /-- Blanks do not count. -/
  withoutBlanks : Bool
  /-- Runs of blanks are the same. -/
  blankRuns : Bool
  /-- Empty lines do not count. -/
  withoutEmpty : Bool
  /-- A tab stands after the mark of a line. -/
  tab : Bool
  /-- What stands for the names of the files. -/
  labels : List Bytes
  /-- The options as they were given. -/
  options : List Bytes

/-- A line with every run of blanks as one. -/
def oneBlank : Bytes → Bytes
  | [] => []
  | b :: rest =>
    let rest := oneBlank rest
    if isBlank b then
      match rest with
      | [] => []
      | c :: _ => if c = 0x20 then rest else 0x20 :: rest
    else b :: rest
where
  /-- Whether a byte is a blank. -/
  isBlank (b : UInt8) : Bool :=
    b = 0x20 || (0x09 ≤ b && b ≤ 0x0D)

/-- What of a line is compared; a line without end is not the same as one with it, unless blanks at
the end do not count. -/
def LineManner.key (m : LineManner) (l : TextLine) : Bytes × Bool :=
  let text := if m.folds then l.bytes.map Text.Regex.lower else l.bytes
  let text := if m.withoutBlanks then text.filter fun b => !oneBlank.isBlank b
    else if m.blankRuns then oneBlank text else text
  (text, l.ended || m.withoutBlanks || m.blankRuns)

/-- Numbers for the keys of lines: the same for those that are the same. -/
def numbered (keys : List (Bytes × Bool)) : List Nat :=
  let distinct := keys.foldl (fun known k => if known.contains k then known else k :: known) []
  keys.map fun k => distinct.idxOf k

/-- A line with a mark, as it is written. -/
def marked (mark : Bytes) (l : TextLine) : Bytes :=
  mark ++ l.bytes ++ [0x0A] ++
    if l.ended then [] else utf8 "\\ No newline at end of file\n"

/-- A part of a list. -/
def part {α : Type} (items : List α) (first count : Nat) : List α :=
  (items.drop first).take count

open Text.EditScript (Piece pieces)

/-- The numbers of lines, from the number of those in front and how many they are. -/
def range (before count : Nat) : String :=
  if count ≤ 1 then toString (before + count) else s!"{before + 1},{before + count}"

/-- A difference as a command with lines. -/
def plainPiece (tab : Bool) (a b : List TextLine) (p : Piece) : Bytes :=
  let blank : UInt8 := if tab then 0x09 else 0x20
  let letter := if p.taken = 0 then "a" else if p.added = 0 then "d" else "c"
  utf8 (range p.first p.taken ++ letter ++ range p.second p.added ++ "\n") ++
    (part a p.first p.taken).flatMap (marked [0x3C, blank]) ++
    (if p.taken = 0 ∨ p.added = 0 then [] else utf8 "---\n") ++
    (part b p.second p.added).flatMap (marked [0x3E, blank])

/-- Puts differences together that are near each other. -/
def groups (around : Nat) : List Piece → List (List Piece)
  | [] => []
  | p :: rest =>
    match groups around rest with
    | (q :: more) :: others =>
      if q.first ≤ p.first + p.taken + 2 * around then (p :: q :: more) :: others
      else [p] :: (q :: more) :: others
    | others => [p] :: others

/-- A group of differences with the lines around it: from where on and how many, in each file. -/
structure Hunk where
  /-- The differences. -/
  pieces : List Piece
  /-- The lines of the first file in front of it. -/
  first : Nat
  /-- The number of its lines in the first file. -/
  taken : Nat
  /-- The lines of the second file in front of it. -/
  second : Nat
  /-- The number of its lines in the second file. -/
  added : Nat

/-- The hunk of a group. -/
def hunkOf (around total : Nat) (group : List Piece) : Option Hunk :=
  match group.head?, group.getLast? with
  | some p, some q =>
    let before := min around p.first
    let after := min around (total - (q.first + q.taken))
    some ⟨group, p.first - before, q.first + q.taken + after - (p.first - before),
      p.second - before, q.second + q.added + after - (p.second - before)⟩
  | _, _ => none

/-- The numbers of lines in a joined hunk. -/
def joinedRange (before count : Nat) : String :=
  if count = 1 then toString (before + 1)
  else if count = 0 then s!"{before},0"
  else s!"{before + 1},{count}"

/-- The lines of a joined hunk from a line of the first file on. -/
def joinedLines (a b : List TextLine) (h : Hunk) : Nat → List Piece → Bytes
  | at_, [] => (part a at_ (h.first + h.taken - at_)).flatMap (marked [0x20])
  | at_, p :: rest =>
    (part a at_ (p.first - at_)).flatMap (marked [0x20]) ++
      (part a p.first p.taken).flatMap (marked [0x2D]) ++
      (part b p.second p.added).flatMap (marked [0x2B]) ++
      joinedLines a b h (p.first + p.taken) rest

/-- A hunk with the lines of both files in one piece. -/
def joinedHunk (a b : List TextLine) (h : Hunk) : Bytes :=
  utf8 ("@@ -" ++ joinedRange h.first h.taken ++ " +" ++ joinedRange h.second h.added ++ " @@\n") ++
    joinedLines a b h h.first h.pieces

/-- The lines of one file in a hunk: the places and numbers of its changed lines are known, and
whether there are some in the other file as well. -/
def apartLines (lines : List TextLine) (mark : UInt8) (stop : Nat) :
    Nat → List (Nat × Nat × Bool) → Bytes
  | at_, [] => (part lines at_ (stop - at_)).flatMap (marked (utf8 "  "))
  | at_, (first, count, both) :: rest =>
    (part lines at_ (first - at_)).flatMap (marked (utf8 "  ")) ++
      (part lines first count).flatMap (marked [if both then 0x21 else mark, 0x20]) ++
      apartLines lines mark stop (first + count) rest

/-- A hunk with each file in a piece of its own. -/
def apartHunk (a b : List TextLine) (h : Hunk) : Bytes :=
  let both := fun (p : Piece) => decide (p.taken ≠ 0 ∧ p.added ≠ 0)
  let old := h.pieces.map fun p => (p.first, p.taken, both p)
  let new := h.pieces.map fun p => (p.second, p.added, both p)
  utf8 ("***************\n*** " ++ range h.first h.taken ++ " ****\n") ++
    (if h.pieces.any (·.taken ≠ 0) then
      apartLines a 0x2D (h.first + h.taken) h.first old else []) ++
    utf8 ("--- " ++ range h.second h.added ++ " ----\n") ++
    (if h.pieces.any (·.added ≠ 0) then
      apartLines b 0x2B (h.second + h.added) h.second new else [])

/-- The name of a file with its time, as it stands above hunks. -/
def titled (m : LineManner) (index : Nat) (name : Bytes) : Bytes :=
  match m.labels[index]? with
  | some label => label
  | none => name ++ utf8 "\t1970-01-01 00:00:00.000000000 +0000"

/-- The differences of two texts as they are written. -/
def LineManner.shown (m : LineManner) (one two : Bytes) (a b : List TextLine)
    (found : List Piece) : Bytes :=
  match m.layout with
  | .plain => found.flatMap (plainPiece m.tab a b)
  | .joined n =>
    utf8 "--- " ++ titled m 0 one ++ utf8 "\n+++ " ++ titled m 1 two ++ [0x0A] ++
      ((groups n found).filterMap (hunkOf n a.length)).flatMap (joinedHunk a b)
  | .apart n =>
    utf8 "*** " ++ titled m 0 one ++ utf8 "\n--- " ++ titled m 1 two ++ [0x0A] ++
      ((groups n found).filterMap (hunkOf n a.length)).flatMap (apartHunk a b)

/-- The number of lines around differences. -/
def LineManner.around (m : LineManner) : Nat :=
  match m.layout with
  | .plain => 0
  | .joined n => n
  | .apart n => n

/-- Compares two contents. -/
def compareLines (m : LineManner) (inDirectory : Bool) (one two a b : Bytes) : Work Unit := do
  let differ : Work Unit := do
    putLine (utf8 "Files " ++ one ++ utf8 " and " ++ two ++ utf8 " differ")
    fault 1
  let same : Work Unit := do
    if m.tellsSame then
      putLine (utf8 "Files " ++ one ++ utf8 " and " ++ two ++ utf8 " are identical")
  let isLoose := m.folds || m.withoutBlanks || m.blankRuns || m.withoutEmpty
  if a = b then same
  else if m.brief ∧ !isLoose then differ
  else if !m.text ∧ (a.contains 0 ∨ b.contains 0) then
    putLine (utf8 "Binary files " ++ one ++ utf8 " and " ++ two ++ utf8 " differ")
    fault 1
  else
    let x := linesOf 0x0A a
    let y := linesOf 0x0A b
    let all := numbered (x.map m.key ++ y.map m.key)
    let found := pieces m.around (all.take x.length) (all.drop x.length)
    let isEmpty := fun (l : TextLine) => (m.key l).1 = []
    let found := if m.withoutEmpty then
        found.filter fun p =>
          !((part x p.first p.taken).all isEmpty ∧ (part y p.second p.added).all isEmpty)
      else found
    if found = [] then same
    else if m.brief then differ
    else
      if inDirectory then
        let front := utf8 "diff" :: m.options ++ [one, two]
        putLine ([0x20].intercalate front)
      put (m.shown one two x y found)
      fault 1

/-- What a kind of entry is called. -/
def kindName (f : Facts) : String :=
  match f.kind with
  | .file => if f.size = 0 then "regular empty file" else "regular file"
  | .directory => "directory"
  | .link => "symbolic link"
  | .pipe => "fifo"
  | .device => "character special file"

/-- The content of a file that may not be there. -/
def contentFor (name : Bytes) (there : Bool) : Work (Option Bytes) := do
  if !there then return some []
  match ← contentOf name with
  | .ok bytes => return some bytes
  | .error e =>
    say (name ++ utf8 (": " ++ e.libraryText))
    fault 2
    return none

/-- The facts about a path. -/
def factsFor (path : Bytes) : Work (Except Errno Facts) :=
  if isInput path then call (.factsOf 0) else call (.facts path true)

/-- The names in a directory, in order. -/
def namesIn (path : Bytes) (there : Bool) : Work (List Bytes) := do
  if !there then return []
  let listed : Except Errno (List (Name × Kind)) ← call (.children path)
  match listed with
  | .ok found => return (found.map (·.1)).mergeSort fun a b => a ≤ b
  | .error e =>
    say (path ++ utf8 (": " ++ e.libraryText))
    fault 2
    return []

/-- The names of two lists in order, each once. -/
def union : List Bytes → List Bytes → List Bytes
  | as, bs => (as ++ bs.filter fun b => !as.contains b).mergeSort fun a b => a ≤ b

/-- Compares two entries. -/
def compareEntries (m : LineManner) : Nat → Bool → Bytes → Bytes → Work Unit
  | 0, _, _, _ => return ()
  | fuel + 1, inDirectory, one, two => do
    let x : Except Errno Facts ← factsFor one
    let y : Except Errno Facts ← factsFor two
    let complaint : Bytes → Except Errno Facts → Work Bool := fun name r => do
      match r with
      | .error e =>
        if m.missingIsEmpty ∧ e = .noEntry then return false
        say (name ++ utf8 (": " ++ e.libraryText))
        fault 2
        return true
      | .ok _ => return false
    let absent : Bool := match x, y with
      | .error _, .error _ => true
      | _, _ => false
    if absent then
      for (name, r) in [(one, x), (two, y)] do
        match r with
        | .error e =>
          say (name ++ utf8 (": " ++ e.libraryText))
          fault 2
        | .ok _ => pure ()
    else if ← complaint one x then return ()
    else if ← complaint two y then return ()
    else
      let kind : Except Errno Facts → Option Kind := fun r => r.toOption.map (·.kind)
      let isDirectory := fun (r : Except Errno Facts) => kind r = some .directory
      let there := fun (r : Except Errno Facts) => (kind r).isSome
      if (isDirectory x || !there x) ∧ (isDirectory y || !there y) then
        if inDirectory ∧ !m.recursive then
          putLine (utf8 "Common subdirectories: " ++ one ++ utf8 " and " ++ two)
        else
          let as ← namesIn one (there x)
          let bs ← namesIn two (there y)
          for n in union as bs do
            if m.missingIsEmpty ∨ (as.contains n ∧ bs.contains n) then
              compareEntries m fuel true (below one n) (below two n)
            else
              let side := if as.contains n then one else two
              putLine (utf8 "Only in " ++ side ++ utf8 ": " ++ n)
              fault 1
      else
        match x, y with
        | .ok f, .ok g =>
          if isDirectory x ≠ isDirectory y then
            if inDirectory then
              let word := fun (f : Facts) => match f.kind with
                | .directory => "a directory"
                | _ => "a " ++ kindName f
              putLine (utf8 "File " ++ one ++ utf8 (" is " ++ word f ++ " while file ") ++ two ++
                utf8 (" is " ++ word g))
              fault 1
            else if isDirectory x then compareEntries m fuel false (below one (lastName two)) two
            else compareEntries m fuel false one (below two (lastName one))
          else if f.location = g.location then
            if m.tellsSame then
              putLine (utf8 "Files " ++ one ++ utf8 " and " ++ two ++ utf8 " are identical")
          else
            match ← contentFor one true, ← contentFor two true with
            | some a, some b => compareLines m inDirectory one two a b
            | _, _ => return ()
        | _, _ =>
          match ← contentFor one (there x), ← contentFor two (there y) with
          | some a, some b => compareLines m inDirectory one two a b
          | _, _ => return ()

/-- The number of lines around differences that an option asks for. -/
def aroundOf (text : Bytes) : Work Nat := do
  if text = [] ∨ !text.all Amount.isDigit then
    misused (utf8 "invalid context length " ++ Quote.plain text)
  return Amount.count text

/-- The usual number of lines around differences. -/
def usualAround : Nat := 3

end Comparing

open Comparing in
/-- Compares two files line by line. -/
def diff (args : List Bytes) : Work Unit := do
  let f ← Options.readOr Comparing.refer [.flag "a" "text", .flag "b" "ignore-space-change",
    .flag "B" "ignore-blank-lines", .flag "c" "", ⟨"", "context", .optional⟩, .valued "C" "",
    .flag "d" "minimal", .flag "i" "ignore-case", .valued "" "label", .valued "L" "",
    .flag "N" "new-file", .flag "q" "brief", .flag "r" "recursive",
    .flag "s" "report-identical-files", .flag "T" "initial-tab", .flag "u" "",
    ⟨"", "unified", .optional⟩, .valued "U" "", .flag "w" "ignore-all-space", .flag "" "normal",
    .flag "H" "speed-large-files", .flag "t" "expand-tabs", .flag "Z" "ignore-trailing-space"]
    true args
  let mut layout := Layout.plain
  for g in f.given do
    match g.key with
    | "u" => layout := .joined usualAround
    | "c" => layout := .apart usualAround
    | "unified" =>
      let around ← g.value.mapM aroundOf
      layout := .joined (around.getD usualAround)
    | "context" =>
      let around ← g.value.mapM aroundOf
      layout := .apart (around.getD usualAround)
    | "U" => layout := .joined (← aroundOf (g.value.getD []))
    | "C" => layout := .apart (← aroundOf (g.value.getD []))
    | _ => pure ()
  let m : LineManner :=
    { layout := layout, brief := f.has "q", tellsSame := f.has "s", recursive := f.has "r"
      missingIsEmpty := f.has "N", text := f.has "a", folds := f.has "i"
      withoutBlanks := f.has "w", blankRuns := f.has "b" || f.has "Z"
      withoutEmpty := f.has "B", tab := f.has "T"
      labels := f.given.filterMap fun g =>
        if g.key = "label" ∨ g.key = "L" then g.value else none
      options := f.operands.foldr (fun o left => left.erase o) args }
  match f.operands with
  | [] =>
    let last := args.getLastD (← get).name
    Comparing.misused (utf8 "missing operand after " ++ Quote.plain last)
  | [a] => Comparing.misused (utf8 "missing operand after " ++ Quote.plain a)
  | [a, b] =>
    compareEntries m 256 false a b
    Comparing.finish
  | _ :: _ :: extra :: _ =>
    Comparing.misused (utf8 "extra operand " ++ Quote.plain extra)

end CommandShell.Tool
