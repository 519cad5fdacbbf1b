import CommandShell.Tool.Column

/-!
# Cutting files into pieces

A file is written in pieces: so many lines or bytes each, or as many pieces as are asked for. The
names of the pieces are counted in letters or digits.
-/

namespace CommandShell.Tool

open Work

namespace Pieces

/-- What the size of a piece is counted in. -/
inductive Measure where
  /-- Lines. -/
  | lines
  /-- Bytes. -/
  | bytes
  /-- Bytes, but as few lines as possible are cut. -/
  | lineBytes
  /-- Bytes, so that there are so many pieces. -/
  | shares
  /-- Lines that begin in such a share. -/
  | lineShares
  /-- Lines in turn. -/
  | turns

/-- How a file is cut. -/
structure Plan where
  /-- What is counted. -/
  measure : Measure
  /-- How many of them make a piece, or how many pieces there are. -/
  size : Nat
  /-- The only piece that is written, to the output. -/
  only : Option Nat

/-- The lines of a text, each with its end. -/
def wholeLines (ending : UInt8) (text : Bytes) : List Bytes :=
  (linesOf ending text).map (·.whole ending)

/-- Groups of so many items. -/
def grouped {α : Type} (size : Nat) : Nat → List α → List (List α)
  | 0, _ => []
  | fuel + 1, items =>
    if items.isEmpty then [] else items.take size :: grouped size fuel (items.drop size)

/-- Pieces of at most so many bytes, of whole lines where they are not longer. -/
def packed (size : Nat) (lines : List Bytes) : List Bytes :=
  let parts := lines.flatMap fun l => grouped size (l.length + 1) l
  (parts.foldl (fun (done : List Bytes) part =>
    match done with
    | piece :: before =>
      if piece.length + part.length ≤ size then (piece ++ part) :: before else part :: done
    | [] => [part]) []).reverse

/-- Where the shares of a text begin. The first ones take what cannot be shared. -/
def shareStart (length count index : Nat) : Nat :=
  index * (length / count) + min index (length % count)

/-- The share in which a position is. -/
def shareOf (length count position : Nat) : Nat :=
  ((List.range count).filter fun i => shareStart length count i ≤ position).length - 1

/-- The pieces of a text. -/
def Plan.cut (p : Plan) (ending : UInt8) (text : Bytes) : List Bytes :=
  let indices := List.range p.size
  match p.measure with
  | .lines =>
    let lines := wholeLines ending text
    (grouped p.size (lines.length + 1) lines).map (·.flatten)
  | .bytes => grouped p.size (text.length + 1) text
  | .lineBytes => packed p.size (wholeLines ending text)
  | .shares =>
    indices.map fun i =>
      let start := shareStart text.length p.size i
      (text.drop start).take (shareStart text.length p.size (i + 1) - start)
  | .lineShares =>
    let lines := (wholeLines ending text).foldl (fun (done : List (Bytes × Nat) × Nat) l =>
      ((l, shareOf text.length p.size done.2) :: done.1, done.2 + l.length)) ([], 0)
    indices.map fun i => ((lines.1.filter (·.2 = i)).reverse.map (·.1)).flatten
  | .turns =>
    let lines := (wholeLines ending text).zipIdx
    indices.map fun i => ((lines.filter (·.2 % p.size = i)).map (·.1)).flatten

/-! ### Names -/

/-- How pieces are named. -/
structure Naming where
  /-- What is in front. -/
  front : Bytes
  /-- The digits of the number of a piece. -/
  digits : Bytes
  /-- How many digits there are at least. -/
  width : Nat
  /-- Whether there may be more. -/
  grows : Bool
  /-- The number of the first piece. -/
  start : Nat
  /-- What is behind. -/
  back : Bytes

/-- A number with so many digits. -/
def Naming.spelled (n : Naming) : Nat → Nat → Bytes
  | 0, _ => []
  | width + 1, value =>
    let base := n.digits.length
    n.spelled width (value / base) ++ [n.digits.getD (value % base) 0x61]

/-- The digits of a piece. Numbers that begin with the last digit have more digits, so that names
stay in order. -/
def Naming.suffix? (n : Naming) : Nat → Nat → Bytes → Nat → Option Bytes
  | 0, _, _, _ => none
  | fuel + 1, width, before, value =>
    let base := n.digits.length
    if !n.grows then
      if value < Nat.pow base width then some (n.spelled width value) else none
    else
      let room := (base - 1) * Nat.pow base (width - 1)
      if value < room then some (before ++ n.spelled width value)
      else
        n.suffix? fuel (width + 1) (before ++ [n.digits.getLastD 0x7A])
          (value - room)

/-- The name of a piece. -/
def Naming.name? (n : Naming) (index : Nat) : Option Bytes :=
  (n.suffix? 64 n.width [] (n.start + index)).map fun s => n.front ++ s ++ n.back

/-! ### Arguments -/

/-- A number that is not zero. -/
def countOf (what : String) (text : Bytes) : Work Nat := do
  let n ← amount "bcEGKkMPQRTwYZ" 1 ("invalid number of " ++ what) text
  if n = 0 then fail 1 (utf8 ("invalid number of " ++ what ++ ": ") ++ Quote.plain text)
  return n

/-- The plan of a number of pieces, perhaps with a letter for the way and the piece that is
wanted. -/
def sharesOf (text : Bytes) : Work Plan := do
  let (measure, body) : Measure × Bytes := match text with
    | 0x6C :: 0x2F :: rest => (.lineShares, rest)
    | 0x72 :: 0x2F :: rest => (.turns, rest)
    | _ => (.shares, text)
  match piecesOf 0x2F body with
  | [wanted, count] =>
    let n ← countOf "chunks" count
    match Amount.ofText "" wanted with
    | .number k =>
      if k = 0 ∨ n < k then fail 1 (utf8 "invalid chunk number: " ++ Quote.plain wanted)
      return ⟨measure, n, some k⟩
    | _ => fail 1 (utf8 "invalid chunk number: " ++ Quote.plain wanted)
  | _ => return ⟨measure, ← countOf "chunks" body, none⟩

/-- The plan that options ask for after another plan. -/
def planOf (given : List Given) (plan : Option Plan) : Work (Option Plan) :=
  given.foldlM (fun plan g => do
    let value := g.value.getD []
    if ["l", "b", "C", "n"].contains g.key ∧ plan.isSome then
      misused 1 (utf8 "cannot split in more than one way")
    match g.key with
    | "l" => return some ⟨.lines, ← countOf "lines" value, none⟩
    | "b" => return some ⟨.bytes, ← countOf "bytes" value, none⟩
    | "C" => return some ⟨.lineBytes, ← countOf "bytes" value, none⟩
    | "n" => return some (← sharesOf value)
    | _ => return plan) plan

/-- The byte that ends lines. -/
def endingOf (value : Option Bytes) : Work UInt8 :=
  match value with
  | none => return 0x0A
  | some [b] => return b
  | some [0x5C, 0x30] => return 0
  | some [] => fail 1 (utf8 "empty record separator")
  | some text => fail 1 (utf8 "multi-character separator " ++ Quote.plain text)

/-- The digits of a number without the zeros in front. -/
def withoutZeros (digits : Bytes) : Bytes :=
  let rest := digits.dropWhile (· = 0x30)
  if rest = [] then digits.take 1 else rest

/-- How the names of pieces are counted. -/
def namingOf (f : Options.Found) (plan : Plan) (front : Bytes) : Work Naming := do
  let kind := f.last? ["d", "x", "numeric-suffixes", "hex-suffixes"]
  let hexadecimal := kind = some "x" || kind = some "hex-suffixes"
  let digits := match kind with
    | none => "abcdefghijklmnopqrstuvwxyz"
    | some _ => if hexadecimal then "0123456789abcdef" else "0123456789"
  let first := (f.given.filterMap fun g =>
    if g.key = "numeric-suffixes" ∨ g.key = "hex-suffixes" then g.value.map withoutZeros
    else none).getLast?
  let start ← match first with
    | none => pure 0
    | some text =>
      let base := if hexadecimal then 16 else 10
      let value := text.foldl (fun (n : Option Nat) b =>
        match n, hexDigit? b with
        | some n, some d => if d < base then some (n * base + d) else none
        | _, _ => none) (if text = [] then none else some 0)
      match value with
      | some n => pure n
      | none =>
        let word := if hexadecimal then "hexadecimal" else "numerical"
        misused 1 (utf8 "" ++ Quote.plain text ++
          utf8 (": invalid start value for " ++ word ++ " suffix"))
  let width ← match f.value? "a" with
    | none => pure 0
    | some text => amount "" 1 "invalid suffix length" text
  let needed : Nat := match plan.measure with
    | .shares | .lineShares | .turns =>
      ((List.range 64).find? fun w => plan.size ≤ Nat.pow digits.length w).getD 64
    | _ => 0
  if width ≠ 0 ∧ width < needed then
    fail 1 (utf8 s!"the suffix length needs to be at least {needed}")
  let back := (f.value? "additional-suffix").getD []
  if back.contains slash then
    misused 1 (utf8 "invalid suffix " ++ Quote.plain back ++
      utf8 ", contains directory separator")
  return { front := front, digits := utf8 digits, back := back, start := start
           width := if width = 0 then max 2 (max needed ((first.getD []).length)) else width
           grows := width = 0 && needed = 0 && first.isNone }

/-- Writes a piece to a file of its own. -/
def writePiece (n : Naming) (verbose : Bool) (index : Nat) (piece : Bytes) : Work Unit := do
  match n.name? index with
  | none => fail 1 (utf8 "output file suffixes exhausted")
  | some name =>
    if verbose then putLine (utf8 "creating file " ++ Quote.shell name)
    let stopFor := fun (e : Errno) =>
      fail 1 (Quote.name name ++ utf8 (": " ++ e.libraryText))
    match ← call (.openFile name .writing) with
    | .error e => stopFor e
    | .ok fd =>
      match ← call (.write fd piece) with
      | .error e => stopFor e
      | .ok () => let _ ← call (.close fd)

/-- Whether an argument is a number of lines after a dash. -/
def isOldCount (arg : Bytes) : Bool :=
  match arg with
  | 0x2D :: b :: rest => (b :: rest).all Amount.isDigit
  | _ => false

end Pieces

/-- Writes a file in pieces. -/
def split (args : List Bytes) : Work Unit := do
  let (old, args) := args.partition Pieces.isOldCount
  let f ← Options.read [.valued "a" "suffix-length", .valued "" "additional-suffix",
    .valued "b" "bytes", .valued "C" "line-bytes", .flag "d" "",
    ⟨"", "numeric-suffixes", .optional⟩, .flag "x" "", ⟨"", "hex-suffixes", .optional⟩,
    .flag "e" "elide-empty-files",
    .valued "l" "lines", .valued "n" "number", .valued "t" "separator", .flag "u" "unbuffered",
    .flag "" "verbose"] true 1 args
  let oldPlan ← old.getLast?.mapM fun arg => do
    return (⟨.lines, ← Pieces.countOf "lines" arg.tail, none⟩ : Pieces.Plan)
  let plan := (← Pieces.planOf f.given oldPlan).getD ⟨.lines, 1000, none⟩
  let ending ← Pieces.endingOf (f.value? "t")
  let (name, front) ← match f.operands with
    | [] => pure ([0x2D], utf8 "x")
    | [name] => pure (name, utf8 "x")
    | [name, front] => pure (name, front)
    | _ :: _ :: extra :: _ => extraOperand 1 extra
  let naming ← Pieces.namingOf f plan front
  let fd ← match ← openInput name with
    | .ok fd => pure fd
    | .error e => fail 1 (utf8 "cannot open " ++ Quote.shell name ++
        utf8 (" for reading: " ++ e.libraryText))
  let (text, s) ← (Source.ofOpen fd).rest
  match s.failure with
  | some e =>
    let what := match plan.measure with
      | .shares | .lineShares => ": cannot determine file size: "
      | _ => ": "
    fail 1 (Quote.name name ++ utf8 (what ++ e.libraryText))
  | none => pure ()
  let pieces := plan.cut ending text
  match plan.only with
  | some k => put (pieces.getD (k - 1) [])
  | none =>
    let pieces := if f.has "e" then pieces.filter (· ≠ []) else pieces
    for (piece, i) in pieces.zipIdx do
      Pieces.writePiece naming (f.has "verbose") i piece

end CommandShell.Tool
