import CommandShell.Text.Format
import CommandShell.Tool.Input
import CommandShell.Tool.Number
import CommandShell.Tool.Words

/-!
# Showing bytes

The bytes of files are written in blocks, each with its place in front, as characters or as numbers
of some bytes each. Blocks that repeat the one before are left out. Formats that need less room are
spread, so that the same bytes stand below each other.
-/

namespace CommandShell.Tool

open Work

namespace Dump

/-- How units are shown. -/
inductive Style where
  /-- As named characters. -/
  | named
  /-- As characters or escapes. -/
  | escaped
  /-- As numbers with a sign. -/
  | signed
  /-- As numbers in a base, with zeros in front unless the base is ten. -/
  | unsigned (base : Nat)
  /-- As numbers with a fraction. -/
  | real
deriving DecidableEq

/-- A format: how units of a size are shown, and whether the characters follow. -/
structure Format where
  /-- How units are shown. -/
  style : Style
  /-- The number of bytes in a unit. -/
  size : Nat
  /-- Whether the characters follow. -/
  trailer : Bool

/-- The width of a unit. -/
def Format.width (f : Format) : Nat :=
  match f.style, f.size with
  | .named, _ => 3
  | .escaped, _ => 3
  | .signed, 1 => 4
  | .signed, 2 => 6
  | .signed, 4 => 11
  | .signed, _ => 20
  | .real, 4 => 15
  | .real, 8 => 24
  | .real, _ => 29
  | .unsigned 8, n => (8 * n + 2) / 3
  | .unsigned 10, 1 => 3
  | .unsigned 10, 2 => 5
  | .unsigned 10, 4 => 10
  | .unsigned 10, _ => 20
  | .unsigned _, n => 2 * n

/-- The names of the characters that cannot be seen. -/
def names : List String :=
  ["nul", "soh", "stx", "etx", "eot", "enq", "ack", "bel", "bs", "ht", "nl", "vt", "ff", "cr", "so",
   "si", "dle", "dc1", "dc2", "dc3", "dc4", "nak", "syn", "etb", "can", "em", "sub", "esc", "fs",
   "gs", "rs", "us", "sp"]

/-- A text with blanks in front up to a width. -/
def padded (width : Nat) (text : Bytes) : Bytes :=
  List.replicate (width - text.length) 0x20 ++ text

/-- A number in a base with zeros in front up to a width. -/
def zeroPadded (base width n : Nat) : Bytes :=
  let digits := utf8 (String.ofList (Nat.toDigits base n))
  List.replicate (width - digits.length) 0x30 ++ digits

/-- The escape of a byte, if it has one. -/
def escape? (b : UInt8) : Option String :=
  match b with
  | 0x00 => some "\\0"
  | 0x07 => some "\\a"
  | 0x08 => some "\\b"
  | 0x09 => some "\\t"
  | 0x0A => some "\\n"
  | 0x0B => some "\\v"
  | 0x0C => some "\\f"
  | 0x0D => some "\\r"
  | _ => none

/-- The number that the bytes of a unit are, the least first. -/
def number (unit : Bytes) : Nat :=
  unit.foldr (fun b n => n * 256 + b.toNat) 0

/-- A unit as it is shown. -/
def Format.shown (f : Format) (unit : Bytes) : Bytes :=
  let n := number unit
  match f.style with
  | .named =>
    let low := n % 128
    if low = 127 then utf8 "del"
    else
      match names[low]? with
      | some name => utf8 name
      | none => [low.toUInt8]
  | .escaped =>
    let b := n.toUInt8
    match escape? b with
    | some e => utf8 e
    | none => if Quote.isShown b then [b] else zeroPadded 8 3 n
  | .signed =>
    let half := Nat.pow 2 (8 * f.size - 1)
    if n < half then utf8 (toString n) else utf8 ("-" ++ toString (2 * half - n))
  | .real =>
    let (p, digits) := match f.size with
      | 4 => (Text.Format.Precision.single, 6)
      | 8 => (.double, 15)
      | _ => (.extended, 18)
    match Text.Format.Real.ofBits p (f.size = 16) n with
    | .finite negative m e =>
      let small := m < Nat.pow 2 (p.bits - 1) ∧ e = p.unit
      Text.Format.shortest p (.finite negative m e) (if small then 1 else digits)
    | r => Text.Format.real Text.Format.plain p 0x67 r
  | .unsigned 10 => utf8 (toString n)
  | .unsigned base => zeroPadded base f.width n

/-- The units of a block. What is missing of the last one is zero. -/
def unitsOf (size : Nat) : Nat → Bytes → List Bytes
  | 0, _ => []
  | fuel + 1, block =>
    if block = [] then []
    else
      let unit := block.take size
      (unit ++ List.replicate (size - unit.length) 0) :: unitsOf size fuel (block.drop size)

/-- How a block is written. -/
structure Manner where
  /-- The formats. -/
  formats : List Format
  /-- The number of bytes in a block. -/
  blockSize : Nat
  /-- The base of places and their width, if they are written. -/
  places : Option (Nat × Nat)
  /-- How much greater the places are that are written besides, if they are. -/
  further : Option Nat
  /-- Blocks that repeat the one before are written. -/
  all : Bool

/-- The width of the widest line. -/
def Manner.lineWidth (m : Manner) : Nat :=
  (m.formats.map fun f => (f.width + 1) * (m.blockSize / f.size)).foldl max 0

/-- A place as it is written. -/
def Manner.place (m : Manner) (n : Nat) : Bytes :=
  match m.places with
  | some (base, width) =>
    zeroPadded base width n ++ match m.further with
      | some k => utf8 " (" ++ zeroPadded base width (n + k) ++ utf8 ")"
      | none => []
  | none => []

/-- The units of a line with room between them. The room that is left over is shared out from the
last unit on, and the number of units that are left is known. -/
def spread (f : Format) (fields room : Nat) : Nat → Nat → List Bytes → Bytes
  | _, _, [] => []
  | left, rest, u :: more =>
    let next := room * (left - 1) / fields
    0x20 :: padded (rest - next + f.width) (f.shown u) ++ spread f fields room (left - 1) next more

/-- A line of a block. -/
def Manner.line (m : Manner) (f : Format) (block : Bytes) : Bytes :=
  let fields := m.blockSize / f.size
  let room := m.lineWidth - (f.width + 1) * fields
  let units := unitsOf f.size (block.length + 1) block
  let body := spread f fields room fields room units
  if f.trailer then
    let missing := (m.blockSize - block.length) / f.size
    let gap := missing * (f.width + 1) + room * missing / fields
    body ++ List.replicate gap 0x20 ++ utf8 "  >" ++
      block.map (fun b => if Quote.isShown b then b else 0x2E) ++ utf8 "<"
  else body

/-- The lines of a block at a place. -/
def Manner.lines (m : Manner) (n : Nat) (block : Bytes) : Bytes :=
  let front := m.place n
  (m.formats.zipIdx).flatMap fun (f, i) =>
    (if i = 0 then front else List.replicate front.length 0x20) ++ m.line f block ++ [0x0A]

/-- Writes the blocks of a text from a place on. The block before is known, and whether it was left
out. -/
def Manner.blocks (m : Manner) : Nat → Nat → Option Bytes → Bool → Bytes → Work Unit
  | 0, _, _, _, _ => return ()
  | fuel + 1, n, before, left, text => do
    if text = [] then
      match m.places with
      | some _ => putLine (m.place n)
      | none => return ()
    else
      let block := text.take m.blockSize
      let rest := text.drop m.blockSize
      let repeats : Bool := !m.all && before = some block && block.length = m.blockSize
      if repeats then
        if !left then putLine [0x2A]
      else put (m.lines n block)
      m.blocks fuel (n + block.length) (some block) repeats rest

/-- Writes the runs of characters in a text that are so long at least and have a zero behind them,
or the end if it is said that the text was cut there. -/
def Manner.strings (m : Manner) (least : Nat) (cut : Bool) : Nat → Nat → Bytes → Work Unit
  | 0, _, _ => return ()
  | fuel + 1, n, text => do
    let run := text.takeWhile Quote.isShown
    let rest := text.drop run.length
    match rest with
    | [] => if cut ∧ least ≤ run.length ∧ run ≠ [] then tell n run
    | b :: more =>
      if b = 0 ∧ least ≤ run.length then tell n run
      m.strings least cut fuel (n + run.length + 1) more
where
  /-- Writes a run at a place. -/
  tell (n : Nat) (run : Bytes) : Work Unit :=
    putLine ((match m.places with
      | some _ => m.place n ++ [0x20]
      | none => []) ++ run)

/-- The size of units that a text names, and the rest of it. -/
def sizeOf (text : Bytes) : Except Nat (Nat × Bytes) :=
  match text with
  | 0x43 :: rest => .ok (1, rest)
  | 0x53 :: rest => .ok (2, rest)
  | 0x49 :: rest => .ok (4, rest)
  | 0x4C :: rest => .ok (8, rest)
  | _ =>
    let digits := text.takeWhile Amount.isDigit
    if digits = [] then .ok (4, text)
    else
      let n := Amount.count digits
      if [1, 2, 4, 8].contains n then .ok (n, text.drop digits.length) else .error n

/-- The size of numbers with a fraction that a text names, and the rest of it. -/
def realSizeOf (text : Bytes) : Except Nat (Nat × Bytes) :=
  match text with
  | 0x46 :: rest => .ok (4, rest)
  | 0x44 :: rest => .ok (8, rest)
  | 0x4C :: rest => .ok (16, rest)
  | _ =>
    let digits := text.takeWhile Amount.isDigit
    if digits = [] then .ok (8, text)
    else
      let n := Amount.count digits
      if [4, 8, 16].contains n then .ok (n, text.drop digits.length) else .error n

/-- The formats that a text names. -/
def formats (whole : Bytes) : Nat → Bytes → Except Bytes (List Format)
  | 0, _ => .ok []
  | fuel + 1, text =>
    match text with
    | [] => .ok []
    | b :: rest =>
      let style? : Option Style := match b with
        | 0x61 => some .named
        | 0x63 => some .escaped
        | 0x64 => some .signed
        | 0x66 => some .real
        | 0x6F => some (.unsigned 8)
        | 0x75 => some (.unsigned 10)
        | 0x78 => some (.unsigned 16)
        | _ => none
      match style? with
      | none =>
        .error (utf8 "invalid character '" ++ b :: utf8 "' in type string " ++ Quote.plain whole)
      | some style =>
        let size := if style = .named ∨ style = .escaped then .ok (1, rest)
          else if style = .real then realSizeOf rest else sizeOf rest
        let kind := if style = .real then "floating point" else "integral"
        match size with
        | .error n =>
          .error (utf8 "invalid type string " ++ Quote.plain whole ++
            utf8 s!";\nthis system doesn't provide a {n}-byte {kind} type")
        | .ok (n, rest) =>
          match rest with
          | 0x7A :: rest => (formats whole fuel rest).map (⟨style, n, true⟩ :: ·)
          | _ => (formats whole fuel rest).map (⟨style, n, false⟩ :: ·)

/-- The formats that letters stand for. -/
def oldFormats : List (String × Format) :=
  [("a", ⟨.named, 1, false⟩), ("b", ⟨.unsigned 8, 1, false⟩), ("B", ⟨.unsigned 8, 2, false⟩),
   ("c", ⟨.escaped, 1, false⟩), ("d", ⟨.unsigned 10, 2, false⟩),
   ("D", ⟨.unsigned 10, 4, false⟩), ("e", ⟨.real, 8, false⟩), ("f", ⟨.real, 4, false⟩),
   ("F", ⟨.real, 8, false⟩), ("h", ⟨.unsigned 16, 2, false⟩),
   ("H", ⟨.unsigned 16, 4, false⟩), ("i", ⟨.signed, 4, false⟩), ("I", ⟨.signed, 8, false⟩),
   ("l", ⟨.signed, 8, false⟩), ("L", ⟨.signed, 8, false⟩), ("o", ⟨.unsigned 8, 2, false⟩),
   ("O", ⟨.unsigned 8, 4, false⟩), ("s", ⟨.signed, 2, false⟩), ("x", ⟨.unsigned 16, 2, false⟩),
   ("X", ⟨.unsigned 16, 4, false⟩)]

/-- The usual number of bytes in a block. -/
def usualBlock : Nat := 16

/-- The place that a text in an old form tells: in base eight, or sixteen after `0x`, perhaps with a
unit. -/
def oldPlace? (text : Bytes) : Option Nat :=
  let body := match text with
    | 0x2B :: rest => rest
    | _ => text
  let (base, body) := match body with
    | 0x30 :: 0x78 :: rest => (16, rest)
    | 0x30 :: 0x58 :: rest => (16, rest)
    | _ => (8, body)
  let digits := body.takeWhile fun b => (hexDigit? b).any (· < base)
  let n := digits.foldl (fun n b => n * base + (hexDigit? b).getD 0) 0
  if digits = [] then none
  else
    match body.drop digits.length with
    | [] => some n
    | [0x62] => some (n * 512)
    | [0x42] => some (n * 1024)
    | _ => none

/-- What operands in an old form say. -/
structure OldForm where
  /-- The names of files. -/
  names : List Bytes
  /-- How much is passed over. -/
  skipped : Nat
  /-- The place that is written besides. -/
  label : Option Nat

/-- What operands say if the last of them may be places. -/
def OldForm.ofOperands (traditional : Bool) (operands : List Bytes) : OldForm :=
  let plain : OldForm := ⟨operands, 0, none⟩
  let signed := fun (text : Bytes) => text.head? = some 0x2B
  match operands with
  | [a] =>
    match oldPlace? a with
    | some n => if traditional ∨ signed a then ⟨[], n, none⟩ else plain
    | none => plain
  | [a, b] =>
    match oldPlace? b with
    | some n =>
      if traditional ∨ signed b ∨ b.head?.any Amount.isDigit then
        match if traditional then oldPlace? a else none with
        | some k => ⟨[], k, some n⟩
        | none => ⟨[a], n, none⟩
      else plain
    | none => plain
  | [a, b, c] =>
    match oldPlace? b, oldPlace? c with
    | some k, some n => if traditional then ⟨[a], k, some n⟩ else plain
    | _, _ => plain
  | _ => plain

end Dump

open Dump

/-- Shows the bytes of files. -/
def od (args : List Bytes) : Work Unit := do
  let f ← Options.read ([.valued "A" "address-radix", .valued "j" "skip-bytes",
    .valued "N" "read-bytes", .valued "t" "format", .flag "v" "output-duplicates",
    ⟨"w", "width", .optional⟩, .valued "S" "", ⟨"", "strings", .optional⟩, .flag "" "traditional",
    .valued "" "endian"] ++ Switch.letters "abBcdDefFhHiIlLoOsxX") true 1 args
  let units := "bkKmMGTPEZYRQ0"
  let mut m : Manner := ⟨[], usualBlock, some (8, 7), none, f.has "v"⟩
  let mut skipped := 0
  let mut limit : Option Nat := none
  let mut width : Option Nat := none
  let mut least : Option Nat := none
  let sizeArgument : String → Bytes → Work Nat := fun option text =>
    let number := if option = "w" then Amount.ofText units text
      else Amount.ofTextInAnyBase units text
    match number with
    | .number n => return n
    | .excessive => fail 1 (utf8 ("-" ++ option ++ " argument ") ++ Quote.plain text ++
        utf8 " too large")
    | .invalid =>
      let what := if text.head?.any Amount.isDigit then "invalid suffix in -" else "invalid -"
      fail 1 (utf8 (what ++ option ++ " argument ") ++ Quote.plain text)
  for g in f.given do
    let value := g.value.getD []
    match g.key with
    | "A" =>
      match value with
      | 0x64 :: _ => m := { m with places := some (10, 7) }
      | 0x6F :: _ => m := { m with places := some (8, 7) }
      | 0x78 :: _ => m := { m with places := some (16, 6) }
      | 0x6E :: _ => m := { m with places := none }
      | _ =>
        fail 1 (utf8 "invalid output address radix '" ++ value.take 1 ++
          utf8 "'; it must be one character from [doxn]")
    | "j" => skipped := ← sizeArgument "j" value
    | "N" => limit := some (← sizeArgument "N" value)
    | "S" => least := some (← sizeArgument "S" value)
    | "strings" =>
      match g.value with
      | some text => least := some (← sizeArgument "S" text)
      | none => least := some 3
    | "w" =>
      match g.value with
      | some text => width := some (← sizeArgument "w" text)
      | none => width := some 32
    | "t" =>
      match formats value (value.length + 1) value with
      | .ok found => m := { m with formats := m.formats ++ found }
      | .error e => fail 1 e
    | letter =>
      match oldFormats.lookup letter with
      | some found => m := { m with formats := m.formats ++ [found] }
      | none => pure ()
  if least.isSome ∧ m.formats ≠ [] then
    fail 1 (utf8 "no type may be specified when dumping strings")
  let traditional := f.has "traditional"
  let modern := f.given.any fun g =>
    ["A", "j", "N", "t", "v", "S", "strings", "w", "endian"].contains g.key
  let old := if modern ∧ !traditional then ⟨f.operands, 0, none⟩
    else OldForm.ofOperands traditional f.operands
  if traditional then
    match old.names with
    | _ :: extra :: _ =>
      say (utf8 "extra operand " ++ Quote.plain extra)
      misused 1 (utf8 "compatibility mode supports at most one file")
    | _ => pure ()
  if old.names.length ≠ f.operands.length then skipped := old.skipped
  m := { m with further := old.label.map (· - old.skipped) }
  if m.formats = [] then m := { m with formats := [⟨.unsigned 8, 2, false⟩] }
  let multiple := (m.formats.map (·.size)).foldl Nat.lcm 1
  match width with
  | some n =>
    if n ≠ 0 ∧ n % multiple = 0 then m := { m with blockSize := n }
    else
      say (utf8 s!"warning: invalid width {n}; using {multiple} instead")
      m := { m with blockSize := multiple }
  | none => pure ()
  let start := skipped
  let mut opened := false
  let mut text : Bytes := []
  for name in inputsOf old.names do
    match ← openInput name with
    | .error e => complainOf (Quote.name name) e
    | .ok fd =>
      opened := true
      if text.length < skipped then
        let known : Except Errno Facts ← call (.factsOf fd)
        let passes : Bool := match known with
          | .ok f => f.kind ≠ .file ∧ f.kind ≠ .pipe
          | .error _ => false
        if passes then skipped := text.length
      let (bytes, s) ← (Source.ofOpen fd).rest
      text := text ++ bytes
      closeInput name fd
      match s.failure with
      | some e => if limit ≠ some 0 then complainOf (Quote.name name) e
      | none => pure ()
  if !opened then return ()
  if text.length < skipped then fail 1 (utf8 "cannot skip past end of combined input")
  let rest := text.drop skipped
  let shown := match limit with
    | some n => rest.take n
    | none => rest
  match least with
  | some n => m.strings n (limit.any (· ≤ rest.length)) (shown.length + 1) start shown
  | none => m.blocks (shown.length + 2) start none false shown

end CommandShell.Tool
