import CommandShell.Bytes

/-!
# Digests

A digest is a short text that hardly ever is the same for two contents. Most are computed from words
of 32 bits: the content is filled up with a bit, zeros and its length to whole blocks, and each
block changes some words that are the state. Simpler ones are sums, or remainders of polynomials.
-/

namespace CommandShell.Text.Digest

/-- The number of bytes in a block. -/
def blockSize : Nat := 64

/-- A word turned to the left. -/
def turned (x : UInt32) (n : UInt32) : UInt32 :=
  (x <<< n) ||| (x >>> (32 - n))

/-- A number as bytes, the least first. -/
def leastFirst : Nat → Nat → Bytes
  | 0, _ => []
  | size + 1, n => (n % 256).toUInt8 :: leastFirst size (n / 256)

/-- A number as bytes, the greatest first. -/
def greatestFirst (size n : Nat) : Bytes :=
  (leastFirst size n).reverse

/-- A content with what fills it up to whole blocks; the number of its bits is at the end. -/
def padded (length : Nat → Bytes) (content : Bytes) : Bytes :=
  let n := content.length
  let zeros := (2 * blockSize - 9 - n % blockSize) % blockSize
  content ++ 0x80 :: List.replicate zeros 0 ++ length (8 * n)

/-- The words of bytes, each of four of them. -/
def words (word : Bytes → Nat) : Bytes → List UInt32
  | a :: b :: c :: d :: rest => (word [a, b, c, d]).toUInt32 :: words word rest
  | _ => []

/-- The number that bytes are, the greatest first. -/
def number (bytes : Bytes) : Nat :=
  bytes.foldl (fun n b => n * 256 + b.toNat) 0

/-- The blocks of words. -/
def blocks : Nat → List UInt32 → List (Array UInt32)
  | 0, _ => []
  | fuel + 1, ws =>
    match ws with
    | [] => []
    | _ => (ws.take 16).toArray :: blocks fuel (ws.drop 16)

/-- The blocks of a content. -/
def blocksOf (leastIsFirst : Bool) (content : Bytes) : List (Array UInt32) :=
  let length := if leastIsFirst then leastFirst 8 else greatestFirst 8
  let word := fun (bytes : Bytes) => number (if leastIsFirst then bytes.reverse else bytes)
  let all := words word (padded length content)
  blocks (all.length + 1) all

/-- The digits of bytes in base sixteen. -/
def hexadecimal (bytes : Bytes) : Bytes :=
  let digit := fun (n : UInt8) => if n < 10 then 0x30 + n else 0x57 + n
  bytes.flatMap fun b => [digit (b / 16), digit (b % 16)]

/-! ### The digest of 128 bits -/

/-- The numbers that are added in the 64 steps of a block: the sines of 1 to 64. -/
def sineTable : Array UInt32 :=
  #[0xD76AA478, 0xE8C7B756, 0x242070DB, 0xC1BDCEEE, 0xF57C0FAF, 0x4787C62A, 0xA8304613,
    0xFD469501, 0x698098D8, 0x8B44F7AF, 0xFFFF5BB1, 0x895CD7BE, 0x6B901122, 0xFD987193,
    0xA679438E, 0x49B40821, 0xF61E2562, 0xC040B340, 0x265E5A51, 0xE9B6C7AA, 0xD62F105D,
    0x02441453, 0xD8A1E681, 0xE7D3FBC8, 0x21E1CDE6, 0xC33707D6, 0xF4D50D87, 0x455A14ED,
    0xA9E3E905, 0xFCEFA3F8, 0x676F02D9, 0x8D2A4C8A, 0xFFFA3942, 0x8771F681, 0x6D9D6122,
    0xFDE5380C, 0xA4BEEA44, 0x4BDECFA9, 0xF6BB4B60, 0xBEBFBC70, 0x289B7EC6, 0xEAA127FA,
    0xD4EF3085, 0x04881D05, 0xD9D4D039, 0xE6DB99E5, 0x1FA27CF8, 0xC4AC5665, 0xF4292244,
    0x432AFF97, 0xAB9423A7, 0xFC93A039, 0x655B59C3, 0x8F0CCC92, 0xFFEFF47D, 0x85845DD1,
    0x6FA87E4F, 0xFE2CE6E0, 0xA3014314, 0x4E0811A1, 0xF7537E82, 0xBD3AF235, 0x2AD7D2BB,
    0xEB86D391]

/-- How far words are turned in a step. -/
def turnTable : Array UInt32 :=
  #[7, 12, 17, 22, 5, 9, 14, 20, 4, 11, 16, 23, 6, 10, 15, 21]

/-- The state of four words. -/
structure Four where
  a : UInt32
  b : UInt32
  c : UInt32
  d : UInt32

/-- A step with a block. -/
def Four.step (block : Array UInt32) (s : Four) (i : Nat) : Four :=
  let (f, g) :=
    if i < 16 then ((s.b &&& s.c) ||| (~~~s.b &&& s.d), i)
    else if i < 32 then ((s.d &&& s.b) ||| (~~~s.d &&& s.c), (5 * i + 1) % 16)
    else if i < 48 then (s.b ^^^ s.c ^^^ s.d, (3 * i + 5) % 16)
    else (s.c ^^^ (s.b ||| ~~~s.d), (7 * i) % 16)
  let sum := f + s.a + sineTable.getD i 0 + block.getD g 0
  ⟨s.d, s.b + turned sum (turnTable.getD (i / 16 * 4 + i % 4) 0), s.b, s.c⟩

/-- The digest of 128 bits of a content. -/
def md5 (content : Bytes) : Bytes :=
  let final := (blocksOf true content).foldl (fun s block =>
    let t := (List.range 64).foldl (Four.step block) s
    ⟨s.a + t.a, s.b + t.b, s.c + t.c, s.d + t.d⟩)
    (⟨0x67452301, 0xEFCDAB89, 0x98BADCFE, 0x10325476⟩ : Four)
  [final.a, final.b, final.c, final.d].flatMap fun w => leastFirst 4 w.toNat

/-! ### The digest of 160 bits -/

/-- The words of a block, with more that are computed from them. -/
def widened (next : Array UInt32 → Nat → UInt32) (block : Array UInt32) (count : Nat) :
    Array UInt32 :=
  (List.range (count - 16)).foldl (fun ws i => ws.push (next ws (i + 16))) block

/-- The state of five words. -/
structure Five where
  a : UInt32
  b : UInt32
  c : UInt32
  d : UInt32
  e : UInt32

/-- A step with the words of a block. -/
def Five.step (ws : Array UInt32) (s : Five) (i : Nat) : Five :=
  let (f, k) : UInt32 × UInt32 :=
    if i < 20 then ((s.b &&& s.c) ||| (~~~s.b &&& s.d), 0x5A827999)
    else if i < 40 then (s.b ^^^ s.c ^^^ s.d, 0x6ED9EBA1)
    else if i < 60 then ((s.b &&& s.c) ||| (s.b &&& s.d) ||| (s.c &&& s.d), 0x8F1BBCDC)
    else (s.b ^^^ s.c ^^^ s.d, 0xCA62C1D6)
  ⟨turned s.a 5 + f + s.e + k + ws.getD i 0, s.a, turned s.b 30, s.c, s.d⟩

/-- The digest of 160 bits of a content. -/
def sha1 (content : Bytes) : Bytes :=
  let next := fun (ws : Array UInt32) (i : Nat) =>
    turned (ws.getD (i - 3) 0 ^^^ ws.getD (i - 8) 0 ^^^ ws.getD (i - 14) 0 ^^^
      ws.getD (i - 16) 0) 1
  let final := (blocksOf false content).foldl (fun s block =>
    let t := (List.range 80).foldl (Five.step (widened next block 80)) s
    ⟨s.a + t.a, s.b + t.b, s.c + t.c, s.d + t.d, s.e + t.e⟩)
    (⟨0x67452301, 0xEFCDAB89, 0x98BADCFE, 0x10325476, 0xC3D2E1F0⟩ : Five)
  [final.a, final.b, final.c, final.d, final.e].flatMap fun w => greatestFirst 4 w.toNat

/-! ### The digest of 256 bits -/

/-- The numbers that are added in the 64 steps of a block: the cube roots of primes. -/
def cubeRootTable : Array UInt32 :=
  #[0x428A2F98, 0x71374491, 0xB5C0FBCF, 0xE9B5DBA5, 0x3956C25B, 0x59F111F1, 0x923F82A4,
    0xAB1C5ED5, 0xD807AA98, 0x12835B01, 0x243185BE, 0x550C7DC3, 0x72BE5D74, 0x80DEB1FE,
    0x9BDC06A7, 0xC19BF174, 0xE49B69C1, 0xEFBE4786, 0x0FC19DC6, 0x240CA1CC, 0x2DE92C6F,
    0x4A7484AA, 0x5CB0A9DC, 0x76F988DA, 0x983E5152, 0xA831C66D, 0xB00327C8, 0xBF597FC7,
    0xC6E00BF3, 0xD5A79147, 0x06CA6351, 0x14292967, 0x27B70A85, 0x2E1B2138, 0x4D2C6DFC,
    0x53380D13, 0x650A7354, 0x766A0ABB, 0x81C2C92E, 0x92722C85, 0xA2BFE8A1, 0xA81A664B,
    0xC24B8B70, 0xC76C51A3, 0xD192E819, 0xD6990624, 0xF40E3585, 0x106AA070, 0x19A4C116,
    0x1E376C08, 0x2748774C, 0x34B0BCB5, 0x391C0CB3, 0x4ED8AA4A, 0x5B9CCA4F, 0x682E6FF3,
    0x748F82EE, 0x78A5636F, 0x84C87814, 0x8CC70208, 0x90BEFFFA, 0xA4506CEB, 0xBEF9A3F7,
    0xC67178F2]

/-- The state of eight words, the first of them first. -/
abbrev Eight : Type := Array UInt32

/-- A step with the words of a block. -/
def eightStep (ws : Array UInt32) (s : Eight) (i : Nat) : Eight :=
  let at_ := fun (n : Nat) => s.getD n 0
  let e := at_ 4
  let a := at_ 0
  let high := turned e 26 ^^^ turned e 21 ^^^ turned e 7
  let choice := (e &&& at_ 5) ^^^ (~~~e &&& at_ 6)
  let first := at_ 7 + high + choice + cubeRootTable.getD i 0 + ws.getD i 0
  let low := turned a 30 ^^^ turned a 19 ^^^ turned a 10
  let majority := (a &&& at_ 1) ^^^ (a &&& at_ 2) ^^^ (at_ 1 &&& at_ 2)
  #[first + low + majority, a, at_ 1, at_ 2, at_ 3 + first, e, at_ 5, at_ 6]

/-- The state after a content, from the one that it begins with. -/
def eightAfter (start : Eight) (content : Bytes) : Bytes :=
  let next := fun (ws : Array UInt32) (i : Nat) =>
    let x := ws.getD (i - 15) 0
    let y := ws.getD (i - 2) 0
    ws.getD (i - 16) 0 + (turned x 25 ^^^ turned x 14 ^^^ (x >>> 3)) + ws.getD (i - 7) 0 +
      (turned y 15 ^^^ turned y 13 ^^^ (y >>> 10))
  let final := (blocksOf false content).foldl (fun (s : Eight) block =>
    let t := (List.range 64).foldl (eightStep (widened next block 64)) s
    (s.toList.zipWith (· + ·) t.toList).toArray) start
  final.toList.flatMap fun w => greatestFirst 4 w.toNat

/-- The digest of 256 bits of a content. -/
def sha256 : Bytes → Bytes :=
  eightAfter #[0x6A09E667, 0xBB67AE85, 0x3C6EF372, 0xA54FF53A,
    0x510E527F, 0x9B05688C, 0x1F83D9AB, 0x5BE0CD19]

/-- The digest of 224 bits of a content. -/
def sha224 (content : Bytes) : Bytes :=
  (eightAfter #[0xC1059ED8, 0x367CD507, 0x3070DD17, 0xF70E5939,
    0xFFC00B31, 0x68581511, 0x64F98FA7, 0xBEFA4FA4] content).take 28

/-- A step of another digest of 256 bits, with the words of a block. -/
def otherStep (ws : Array UInt32) (s : Eight) (i : Nat) : Eight :=
  let at_ := fun (n : Nat) => s.getD n 0
  let a := at_ 0
  let b := at_ 1
  let c := at_ 2
  let e := at_ 4
  let f := at_ 5
  let g := at_ 6
  let added : UInt32 := if i < 16 then 0x79CC4519 else 0x7A879D8A
  let first := turned (turned a 12 + e + turned added (i % 32).toUInt32) 7
  let second := first ^^^ turned a 12
  let low := if i < 16 then a ^^^ b ^^^ c else (a &&& b) ||| (a &&& c) ||| (b &&& c)
  let high := if i < 16 then e ^^^ f ^^^ g else (e &&& f) ||| (~~~e &&& g)
  let x := low + at_ 3 + second + (ws.getD i 0 ^^^ ws.getD (i + 4) 0)
  let y := high + at_ 7 + first + ws.getD i 0
  #[x, a, turned b 9, c, y ^^^ turned y 9 ^^^ turned y 17, e, turned f 19, g]

/-- Another digest of 256 bits of a content. -/
def sm3 (content : Bytes) : Bytes :=
  let next := fun (ws : Array UInt32) (i : Nat) =>
    let x := ws.getD (i - 16) 0 ^^^ ws.getD (i - 9) 0 ^^^ turned (ws.getD (i - 3) 0) 15
    x ^^^ turned x 15 ^^^ turned x 23 ^^^ turned (ws.getD (i - 13) 0) 7 ^^^ ws.getD (i - 6) 0
  let final := (blocksOf false content).foldl (fun (s : Eight) block =>
    let t := (List.range 64).foldl (otherStep (widened next block 68)) s
    (s.toList.zipWith (· ^^^ ·) t.toList).toArray)
    #[0x7380166F, 0x4914B2B9, 0x172442D7, 0xDA8A0600,
      0xA96F30BC, 0x163138AA, 0xE38DEE4D, 0xB0FB0E4E]
  final.toList.flatMap fun w => greatestFirst 4 w.toNat

/-! ### Remainders and sums -/

/-- The remainder after a bit more. -/
def remainderBit (r : UInt32) : UInt32 :=
  if r >>> 31 = 1 then (r <<< 1) ^^^ 0x04C11DB7 else r <<< 1

/-- The remainder after a byte more. -/
def remainderByte (r : UInt32) (b : UInt8) : UInt32 :=
  (List.range 8).foldl (fun r _ => remainderBit r) (r ^^^ (b.toUInt32 <<< 24))

/-- The bytes of a number that are not zero, the least first. -/
def lengthBytes : Nat → Nat → Bytes
  | 0, _ => []
  | fuel + 1, n => if n = 0 then [] else (n % 256).toUInt8 :: lengthBytes fuel (n / 256)

/-- The remainder of a content with its length after it. -/
def remainder (content : Bytes) : Nat :=
  let n := content.length
  (~~~((content ++ lengthBytes (n + 1) n).foldl remainderByte 0)).toNat

/-- The sum of a content of 16 bits that is turned to the right before each byte. -/
def turningSum (content : Bytes) : Nat :=
  content.foldl (fun s b => (s / 2 + s % 2 * 0x8000 + b.toNat) % 0x10000) 0

/-- The sum of a content of 16 bits with what is above them added. -/
def foldedSum (content : Bytes) : Nat :=
  let s := (content.foldl (fun s b => s + b.toNat) 0) % 0x100000000
  let r := s % 0x10000 + s / 0x10000
  r % 0x10000 + r / 0x10000

end CommandShell.Text.Digest
