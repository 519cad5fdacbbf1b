import CommandShell.Bytes

/-!
# Bytes as characters that every system has

Some bytes together are a number, and its digits are written with the characters of an alphabet. The
more characters there are, the fewer are needed. If bytes are missing at the end, marks can stand in
place of the characters that would say nothing.
-/

namespace CommandShell.Text

/-- How bytes are written as characters. -/
structure Radix where
  /-- The characters. -/
  alphabet : Bytes
  /-- The number of bits that a character stands for. -/
  bits : Nat
  /-- The number of characters that belong together. -/
  group : Nat
  /-- Whether the characters of bytes that are missing are replaced by marks. -/
  marks : Bool
  /-- Whether such marks may be missing. -/
  lenient : Bool
  /-- Whether the first character stands for the lowest bits. -/
  lowFirst : Bool

namespace Radix

/-- The mark. -/
def mark : UInt8 := 0x3D

/-- The capital letters. -/
def capitals : Bytes := utf8 "ABCDEFGHIJKLMNOPQRSTUVWXYZ"

/-- Sixty-four characters. -/
def sixtyFour : Radix :=
  ⟨capitals ++ utf8 "abcdefghijklmnopqrstuvwxyz0123456789+/", 6, 4, true, true, false⟩

/-- Sixty-four characters that may stand in names of files. -/
def sixtyFourNamed : Radix :=
  ⟨capitals ++ utf8 "abcdefghijklmnopqrstuvwxyz0123456789-_", 6, 4, true, true, false⟩

/-- Thirty-two characters. -/
def thirtyTwo : Radix := ⟨capitals ++ utf8 "234567", 5, 8, true, false, false⟩

/-- Thirty-two characters in the order of digits. -/
def thirtyTwoOrdered : Radix := ⟨utf8 "0123456789ABCDEFGHIJKLMNOPQRSTUV", 5, 8, true, false, false⟩

/-- Sixteen characters. -/
def sixteen : Radix := ⟨utf8 "0123456789ABCDEF", 4, 2, false, false, false⟩

/-- Two characters, the highest bit first. -/
def two : Radix := ⟨utf8 "01", 1, 8, false, false, false⟩

/-- Two characters, the lowest bit first. -/
def twoLowFirst : Radix := ⟨utf8 "01", 1, 8, false, false, true⟩

/-- The number of bytes that belong together. -/
def room (r : Radix) : Nat :=
  r.bits * r.group / 8

/-- The number of characters that are needed for some bytes. -/
def needed (r : Radix) (bytes : Nat) : Nat :=
  (8 * bytes + r.bits - 1) / r.bits

/-- The digits of a number, the lowest first. -/
def digits (base : Nat) : Nat → Nat → List Nat
  | 0, _ => []
  | count + 1, n => n % base :: digits base count (n / base)

/-- The number of some digits, the highest first. -/
def numberOf (base : Nat) (all : List Nat) : Nat :=
  all.foldl (fun n d => n * base + d) 0

/-- The characters of bytes that belong together; there may be fewer at the end. -/
def encodeGroup (r : Radix) (bytes : Bytes) : Bytes :=
  let filled := bytes ++ List.replicate (r.room - bytes.length) 0
  let low := digits (Nat.pow 2 r.bits) r.group (numberOf 256 (filled.map (·.toNat)))
  let all := (if r.lowFirst then low else low.reverse).map fun d => r.alphabet.getD d 0
  let used := r.needed bytes.length
  all.take used ++ List.replicate (if r.marks then r.group - used else 0) mark

/-- The characters of bytes. -/
def encode (r : Radix) (bytes : Bytes) : Bytes :=
  go (bytes.length + 1) bytes
where
  /-- The characters of the rest. -/
  go : Nat → Bytes → Bytes
    | 0, _ => []
    | fuel + 1, rest =>
      if rest = [] then [] else r.encodeGroup (rest.take r.room) ++ go fuel (rest.drop r.room)

/-- The number that a character stands for. -/
def value? (r : Radix) (b : UInt8) : Option Nat :=
  r.alphabet.findIdx? (· = b)

/-- The number of bytes that characters of a group stand for, from the number of those that are
known on, and whether all is as it should be. -/
def known (r : Radix) (chars : Bytes) : Nat → Nat → Nat × Bool
  | 0, count => (count, true)
  | fuel + 1, count =>
    if count = r.room then (count, true)
    else
      let start := r.needed count
      let next := (chars.take (r.needed (count + 1))).drop start
      if 0 < count ∧ r.marks ∧ next.head? = some mark then
        (count, (chars.drop start).all (· = mark) && chars.length = r.group)
      else if next.length = r.needed (count + 1) - start ∧
          next.all (fun b => (r.value? b).isSome) then
        r.known chars fuel (count + 1)
      else (count, false)

/-- The bytes of characters that belong together, and whether all is as it should be. -/
def decodeGroup (r : Radix) (chars : Bytes) : Bytes × Bool :=
  if chars.length < r.group ∧ !r.lenient then ([], false)
  else
    let (count, fine) := r.known chars (r.room + 1) 0
    let values := (chars ++ List.replicate (r.group - chars.length) mark).map fun b =>
      (r.value? b).getD 0
    let ordered := if r.lowFirst then values.reverse else values
    let n := numberOf (Nat.pow 2 r.bits) ordered
    (((digits 256 r.room n).reverse.map (·.toUInt8)).take count, fine)

/-- The bytes that characters stand for, as far as these are as they should be. -/
def decode (r : Radix) (chars : Bytes) : Bytes × Bool :=
  go (chars.length + 1) chars
where
  /-- The bytes of the rest. -/
  go : Nat → Bytes → Bytes × Bool
    | 0, _ => ([], true)
    | fuel + 1, rest =>
      if rest = [] then ([], true)
      else
        let (bytes, fine) := r.decodeGroup (rest.take r.group)
        if fine then
          let (more, ended) := go fuel (rest.drop r.group)
          (bytes ++ more, ended)
        else (bytes, false)

/-! ### Eighty-five characters -/

/-- Eighty-five characters; five of them stand for four bytes. -/
def eightyFive : Bytes :=
  utf8 ("0123456789abcdefghijklmnopqrstuvwxyzABCDEFGHIJKLMNOPQRSTUVWXYZ" ++
    ".-:+=^!/*?&<>()[]\x7b\x7d@%$#")

/-- The eighty-five characters for bytes, four of which belong together. -/
def encodeEightyFive : Nat → Bytes → Option Bytes
  | 0, _ => some []
  | fuel + 1, bytes =>
    if bytes = [] then some []
    else if bytes.length < 4 then none
    else
      let n := numberOf 256 ((bytes.take 4).map (·.toNat))
      let five := (digits 85 5 n).reverse.map fun d => eightyFive.getD d 0
      (encodeEightyFive fuel (bytes.drop 4)).map (five ++ ·)

/-- The bytes that five and five of the eighty-five characters stand for, as far as these are as
they should be. -/
def decodeEightyFive : Nat → Bytes → Bytes × Bool
  | 0, _ => ([], true)
  | fuel + 1, chars =>
    if chars = [] then ([], true)
    else
      match (chars.take 5).mapM fun b => eightyFive.findIdx? (· = b) with
      | some values =>
        let n := numberOf 85 values
        if values.length < 5 ∨ 0xFFFFFFFF < n then ([], false)
        else
          let (rest, fine) := decodeEightyFive fuel (chars.drop 5)
          ((digits 256 4 n).reverse.map (·.toUInt8) ++ rest, fine)
      | none => ([], false)

/-- A text in lines of a width, if there is one. -/
def wrapped (width : Nat) : Nat → Bytes → Bytes
  | 0, _ => []
  | fuel + 1, text =>
    if text = [] then []
    else if width = 0 then text
    else text.take width ++ 0x0A :: wrapped width fuel (text.drop width)

end Radix

end CommandShell.Text
