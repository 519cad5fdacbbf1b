import CommandShell.Tool.Column

/-!
# Copying in blocks

A file is copied in blocks of a size, from some place on and up to another, and on the way letters
may be changed. At the end it is told how many blocks were read and written: whole ones, and others.
-/

namespace CommandShell.Tool

open Work

namespace Copying

/-- A number of blocks or of bytes. -/
structure Extent where
  /-- How many. -/
  count : Nat
  /-- Whether bytes are counted. -/
  bytes : Bool

/-- What is copied, and how. -/
structure Request where
  /-- The file that is read. -/
  input : Option Bytes
  /-- The file that is written. -/
  output : Option Bytes
  /-- The number of bytes that are read at once. -/
  inSize : Nat
  /-- The number of bytes that are written at once. -/
  outSize : Nat
  /-- Whether what is read at once is written at once. -/
  direct : Bool
  /-- How much is copied. -/
  count : Option Extent
  /-- How much is left out at the start. -/
  skip : Extent
  /-- Where in the output the copy begins. -/
  seek : Extent
  /-- What is done on the way. -/
  conversions : List String
  /-- How the input is read. -/
  inFlags : List String
  /-- How the output is written. -/
  outFlags : List String
  /-- How much is told. -/
  telling : String

/-- A copy of the input to the output, if nothing else is asked for. -/
def Request.usual : Request :=
  { input := none, output := none, inSize := 512, outSize := 512, direct := false, count := none
    skip := ⟨0, false⟩, seek := ⟨0, false⟩, conversions := [], inFlags := [], outFlags := []
    telling := "" }

/-- What can be done on the way. -/
def conversionNames : List String :=
  ["lcase", "ucase", "swab", "sync", "notrunc", "excl", "nocreat", "noerror", "fdatasync", "fsync",
   "sparse"]

/-- How input can be read. -/
def inputFlags : List String :=
  ["fullblock", "count_bytes", "skip_bytes", "nonblock", "noatime", "nocache", "noctty",
   "nofollow", "dsync", "sync", "binary", "text"]

/-- How output can be written. -/
def outputFlags : List String :=
  ["append", "seek_bytes", "nonblock", "nocache", "noctty", "nofollow", "dsync", "sync", "binary",
   "text"]

/-- The words of a list, which must be known. -/
def wordsOf (what : String) (known : List String) (text : Bytes) : Work (List String) :=
  (piecesOf 0x2C text).mapM fun word =>
    match known.find? fun k => utf8 k = word with
    | some k => pure k
    | none => misused 1 (utf8 ("invalid " ++ what ++ ": ") ++ Quote.plain word)

/-- A number: some factors, and whether it counts bytes. -/
def extentOf (text : Bytes) : Work Extent := do
  let wrong : String → Work Nat := fun reason =>
    fail 1 (utf8 "invalid number: " ++ Quote.plain text ++ utf8 reason)
  let factor := fun (part : Bytes) => do
    if part.head? = some 0x2B then wrong ""
    else
      match Amount.ofText "bcwkKMGTPEZYRQB" part with
      | .number n => pure n
      | .excessive => wrong (": " ++ Errno.valueTooLarge.libraryText)
      | .invalid => wrong ""
  let counted : Bool := match text.reverse with
    | 0x42 :: b :: _ => Amount.isDigit b
    | _ => false
  let text := if counted then text.dropLast else text
  let factors ← (piecesOf 0x78 text).mapM factor
  return ⟨factors.foldl (· * ·) 1, counted⟩

/-- A size, which is not zero. -/
def sizeOf (text : Bytes) : Work Nat := do
  let n := (← extentOf text).count
  if n = 0 then fail 1 (utf8 "invalid number: " ++ Quote.plain text)
  return n

/-- Takes an operand into account. -/
def Request.add (r : Request) (operand : Bytes) : Work Request := do
  let name := operand.takeWhile (· ≠ 0x3D)
  let unknown : Work Request :=
    misused 1 (utf8 "unrecognized operand " ++ Quote.plain operand)
  match operand.drop name.length with
  | [] => unknown
  | _ :: value =>
    if name = utf8 "if" then return { r with input := some value }
    else if name = utf8 "of" then return { r with output := some value }
    else if name = utf8 "bs" then do
      let n ← sizeOf value
      return { r with inSize := n, outSize := n, direct := true }
    else if name = utf8 "ibs" then do
      let n ← sizeOf value
      return if r.direct then r else { r with inSize := n }
    else if name = utf8 "obs" then do
      let n ← sizeOf value
      return if r.direct then r else { r with outSize := n }
    else if name = utf8 "cbs" then do
      let _ ← sizeOf value
      return r
    else if name = utf8 "count" then return { r with count := some (← extentOf value) }
    else if name = utf8 "skip" ∨ name = utf8 "iseek" then
      return { r with skip := ← extentOf value }
    else if name = utf8 "seek" ∨ name = utf8 "oseek" then
      return { r with seek := ← extentOf value }
    else if name = utf8 "conv" then
      return { r with
        conversions := r.conversions ++ (← wordsOf "conversion" conversionNames value) }
    else if name = utf8 "iflag" then
      return { r with inFlags := r.inFlags ++ (← wordsOf "input flag" inputFlags value) }
    else if name = utf8 "oflag" then
      return { r with outFlags := r.outFlags ++ (← wordsOf "output flag" outputFlags value) }
    else if name = utf8 "status" then
      let words ← wordsOf "status level" ["none", "noxfer", "progress"] value
      return { r with telling := words.getLastD "" }
    else unknown

/-- The number of bytes of an extent. -/
def Extent.size (e : Extent) (block : Nat) (inBytes : Bool) : Nat :=
  if e.bytes ∨ inBytes then e.count else e.count * block

/-- Bytes, two by two in the other order. -/
def swapped : Bytes → Bytes
  | a :: b :: rest => b :: a :: swapped rest
  | rest => rest

/-- A block as it is written. -/
def Request.convert (r : Request) (block : Bytes) : Bytes :=
  let does := r.conversions.contains
  let block := if does "sync" then block ++ List.replicate (r.inSize - block.length) 0 else block
  let block :=
    if does "ucase" then block.map fun b => if 0x61 ≤ b ∧ b ≤ 0x7A then b - 0x20 else b
    else if does "lcase" then block.map fun b => if 0x41 ≤ b ∧ b ≤ 0x5A then b + 0x20 else b
    else block
  if does "swab" then swapped block else block

/-- How many blocks were read and written. -/
structure Tally where
  /-- Whole blocks that were read. -/
  wholeIn : Nat
  /-- Other blocks that were read. -/
  partIn : Nat
  /-- Whole blocks that were written. -/
  wholeOut : Nat
  /-- Other blocks that were written. -/
  partOut : Nat
  /-- Bytes that were written. -/
  bytes : Nat
  /-- What is to be written next. -/
  pending : Bytes
  /-- Whether something failed. -/
  failed : Bool

/-- A file under the name that complaints use. -/
structure Stream where
  /-- Its number. -/
  fd : Nat
  /-- Its name. -/
  name : Bytes

/-- Writes a block. -/
def writeBlock (r : Request) (out : Stream) (t : Tally) (block : Bytes) : Work Tally := do
  match ← call (.write out.fd block) with
  | .ok () =>
    let t := { t with bytes := t.bytes + block.length }
    return if block.length = r.outSize then { t with wholeOut := t.wholeOut + 1 }
      else { t with partOut := t.partOut + 1 }
  | .error e =>
    complainOf (utf8 "error writing " ++ Quote.shell out.name) e
    return { t with failed := true }

/-- Writes what is pending, as long as it is a whole block. -/
def writeWhole (r : Request) (out : Stream) : Nat → Tally → Work Tally
  | 0, t => return t
  | fuel + 1, t => do
    if t.failed ∨ t.pending.length < r.outSize then return t
    else
      let block := t.pending.take r.outSize
      let t ← writeBlock r out { t with pending := t.pending.drop r.outSize } block
      writeWhole r out fuel t

/-- Reads a block, in several portions if it must be whole. -/
def readBlock (whole : Bool) (fd : Nat) : Nat → Nat → Bytes → Work (Except Errno Bytes)
  | 0, _, done => return .ok done
  | fuel + 1, size, done => do
    match ← call (.read fd size) with
    | .error e => return .error e
    | .ok [] => return .ok done
    | .ok bytes =>
      let done := done ++ bytes
      if whole ∧ bytes.length < size then readBlock whole fd fuel (size - bytes.length) done
      else return .ok done

/-- Copies blocks, up to a number of bytes or of blocks if one is given. -/
def copy (r : Request) (source out : Stream) (limit : Option Nat) (blocks : Option Nat) :
    Nat → Nat → Tally → Work Tally
  | 0, _, t => return t
  | fuel + 1, taken, t => do
    let ended : Bool := match limit, blocks with
      | some n, _ => n ≤ taken
      | none, some n => n ≤ t.wholeIn + t.partIn
      | none, none => false
    if ended ∨ t.failed then return t
    else
      let size := min r.inSize ((limit.map (· - taken)).getD r.inSize)
      match ← readBlock (r.inFlags.contains "fullblock") source.fd r.inSize size [] with
      | .error e =>
        complainOf (utf8 "error reading " ++ Quote.shell source.name) e
        return { t with failed := true }
      | .ok [] => return t
      | .ok block =>
        let t := if block.length = r.inSize then { t with wholeIn := t.wholeIn + 1 }
          else { t with partIn := t.partIn + 1 }
        let ready := r.convert block
        let t ←
          if r.direct then writeBlock r out t ready
          else writeWhole r out (ready.length + 1) { t with pending := t.pending ++ ready }
        copy r source out limit blocks fuel (taken + block.length) t

/-- Leaves out the start of the input. The answer is whether there was that much. -/
def leaveOut (r : Request) (source : Stream) (size : Nat) : Work Bool := do
  if size = 0 then return true
  let facts : Except Errno Facts ← call (.factsOf source.fd)
  match facts with
  | .ok f =>
    if f.kind = .file then
      let here : Except Errno Nat ← call (.seek source.fd .current 0)
      let goal := here.toOption.getD 0 + size
      let _ ← call (.seek source.fd .start (min goal (max f.size (here.toOption.getD 0))))
      return goal ≤ f.size
    else if f.kind = .device then return true
    else discard size size
  | .error _ => discard size size
where
  /-- Reads so much without using it. -/
  discard : Nat → Nat → Work Bool
    | 0, left => return left = 0
    | fuel + 1, left => do
      if left = 0 then return true
      else
        match ← call (.read source.fd (min left r.inSize)) with
        | .ok (b :: rest) => discard fuel (left - (b :: rest).length)
        | _ => return false

/-- Tells how much was copied. -/
def tell (r : Request) (t : Tally) : Work Unit := do
  if r.telling ≠ "none" then
    emit (utf8 s!"{t.wholeIn}+{t.partIn} records in\n{t.wholeOut}+{t.partOut} records out\n")
    if r.telling ≠ "noxfer" then
      let unit := if t.bytes = 1 then "byte" else "bytes"
      emit (utf8 s!"{t.bytes} {unit} copied\n")

/-- Opens the file that is written. -/
def openOutput (r : Request) : Work Stream := do
  let start := r.seek.size r.outSize (r.outFlags.contains "seek_bytes")
  let does := r.conversions.contains
  match r.output with
  | none =>
    if start ≠ 0 then let _ ← call (.seek 1 .current start)
    return ⟨1, utf8 "standard output"⟩
  | some path =>
    let how : Opening :=
      { reads := false, writes := true, appends := r.outFlags.contains "append"
        creates := !does "nocreat", empties := start = 0 && !does "notrunc"
        exclusive := does "excl" }
    match ← call (.openFile path how) with
    | .error e =>
      complainAbout "failed to open" path e
      stop
    | .ok fd =>
      if start ≠ 0 then
        if !does "notrunc" then let _ ← call (.change (.resize path start))
        let _ ← call (.seek fd .start start)
      return ⟨fd, path⟩

end Copying

/-- Copies a file in blocks. -/
def dd (args : List Bytes) : Work Unit := do
  let f ← Options.read [] true 1 args
  let r ← f.operands.foldlM Copying.Request.add Copying.Request.usual
  for (a, b) in [("lcase", "ucase"), ("excl", "nocreat")] do
    if r.conversions.contains a ∧ r.conversions.contains b then
      fail 1 (utf8 ("cannot combine " ++ a ++ " and " ++ b))
  let source : Copying.Stream ← match r.input with
    | none => pure ⟨0, utf8 "standard input"⟩
    | some path =>
      match ← call (.openFile path .reading) with
      | .ok fd => pure ⟨fd, path⟩
      | .error e =>
        complainAbout "failed to open" path e
        stop
  let out ← Copying.openOutput r
  let skipped := r.skip.size r.inSize (r.inFlags.contains "skip_bytes")
  let enough ← Copying.leaveOut r source skipped
  if !enough ∧ r.telling ≠ "none" then
    say (Quote.name source.name ++ utf8 ": cannot skip to specified offset")
  let inBytes := r.inFlags.contains "count_bytes"
  let limit := r.count.bind fun e => if e.bytes ∨ inBytes then some e.count else none
  let blocks := if limit.isSome then none else r.count.map (·.count)
  let t ← Copying.copy r source out limit blocks Source.portions 0 ⟨0, 0, 0, 0, 0, [], false⟩
  let t ← if t.pending = [] ∨ t.failed then pure t else Copying.writeBlock r out t t.pending
  Copying.tell r t

end CommandShell.Tool
