import CommandShell.Text.Digest

/-!
# Digests from wide words

These digests are computed from words of 64 bits. The numbers that they begin with, and those that
are added in their steps, are the first digits of roots of primes, so that nobody has chosen them.
-/

namespace CommandShell.Text.WideDigest

open Digest (greatestFirst leastFirst number)

/-- The number of bytes in a block. -/
def blockSize : Nat := 128

/-- A word turned to the right. -/
def turned (x n : UInt64) : UInt64 :=
  (x >>> n) ||| (x <<< (64 - n))

/-! ### Roots of primes -/

/-- The greatest number between two whose power of a degree is not above another. -/
def rootBetween (degree n : Nat) : Nat → Nat → Nat → Nat
  | 0, low, _ => low
  | fuel + 1, low, high =>
    if high ≤ low + 1 then low
    else
      let middle := (low + high) / 2
      if Nat.pow middle degree ≤ n then rootBetween degree n fuel middle high
      else rootBetween degree n fuel low middle

/-- The first 64 binary digits behind the point of a root. -/
def rootDigits (degree n : Nat) : UInt64 :=
  let scaled := n * Nat.pow 2 (64 * degree)
  (rootBetween degree scaled 80 0 (Nat.pow 2 72)).toUInt64

/-- The first primes. -/
def primes (count : Nat) : List Nat :=
  ((List.range 420).filter fun n =>
    2 ≤ n && (List.range n).all fun d => d < 2 || n % d ≠ 0).take count

/-- The numbers that are added in the 80 steps of a block. -/
def cubeRoots : Array UInt64 :=
  ((primes 80).map (rootDigits 3)).toArray

/-- The state that the digest of 512 bits begins with. -/
def firstRoots : Array UInt64 :=
  ((primes 8).map (rootDigits 2)).toArray

/-- The state that the digest of 384 bits begins with. -/
def nextRoots : Array UInt64 :=
  (((primes 16).drop 8).map (rootDigits 2)).toArray

/-! ### Blocks -/

/-- The words of bytes, each of eight of them. -/
def words (word : Bytes → Nat) : Nat → Bytes → List UInt64
  | 0, _ => []
  | fuel + 1, bytes =>
    if bytes.length < 8 then []
    else (word (bytes.take 8)).toUInt64 :: words word fuel (bytes.drop 8)

/-- The pieces of a content of the size of a block; there is a last one that is not empty unless
nothing is left. -/
def pieces (content : Bytes) : Nat → List Bytes
  | 0 => []
  | fuel + 1 =>
    if content = [] then []
    else content.take blockSize :: pieces (content.drop blockSize) fuel

/-- The words of a piece, the greatest byte of each first. -/
def blockOf (piece : Bytes) : Array UInt64 :=
  (words number 16 piece).toArray

/-- A content with what fills it up to whole blocks; the number of its bits is at the end. -/
def padded (content : Bytes) : Bytes :=
  let n := content.length
  let zeros := (2 * blockSize - 17 - n % blockSize) % blockSize
  content ++ 0x80 :: List.replicate zeros 0 ++ greatestFirst 16 (8 * n)

/-! ### The digests of 512 and of 384 bits -/

/-- The words of a block, with more that are computed from them. -/
def widened (block : Array UInt64) : Array UInt64 :=
  (List.range 64).foldl (fun ws k =>
    let i := k + 16
    let x := ws.getD (i - 15) 0
    let y := ws.getD (i - 2) 0
    ws.push (ws.getD (i - 16) 0 + (turned x 1 ^^^ turned x 8 ^^^ (x >>> 7)) + ws.getD (i - 7) 0 +
      (turned y 19 ^^^ turned y 61 ^^^ (y >>> 6)))) block

/-- A step with the words of a block. -/
def step (ws : Array UInt64) (s : Array UInt64) (i : Nat) : Array UInt64 :=
  let at_ := fun (n : Nat) => s.getD n 0
  let e := at_ 4
  let a := at_ 0
  let high := turned e 14 ^^^ turned e 18 ^^^ turned e 41
  let choice := (e &&& at_ 5) ^^^ (~~~e &&& at_ 6)
  let first := at_ 7 + high + choice + cubeRoots.getD i 0 + ws.getD i 0
  let low := turned a 28 ^^^ turned a 34 ^^^ turned a 39
  let majority := (a &&& at_ 1) ^^^ (a &&& at_ 2) ^^^ (at_ 1 &&& at_ 2)
  #[first + low + majority, a, at_ 1, at_ 2, at_ 3 + first, e, at_ 5, at_ 6]

/-- The digest of a content that begins with a state. -/
def digestFrom (start : Array UInt64) (content : Bytes) : Bytes :=
  let all := padded content
  let final := (pieces all (all.length + 1)).foldl (fun (s : Array UInt64) piece =>
    let t := (List.range 80).foldl (step (widened (blockOf piece))) s
    (s.toList.zipWith (· + ·) t.toList).toArray) start
  final.toList.flatMap fun w => greatestFirst 8 w.toNat

/-- The digest of 512 bits of a content. -/
def sha512 (content : Bytes) : Bytes :=
  digestFrom firstRoots content

/-- The digest of 384 bits of a content. -/
def sha384 (content : Bytes) : Bytes :=
  (digestFrom nextRoots content).take 48

/-! ### The digest of any length -/

/-- Which words of a block are used in a round. -/
def orders : Array (Array Nat) :=
  #[#[0, 1, 2, 3, 4, 5, 6, 7, 8, 9, 10, 11, 12, 13, 14, 15],
    #[14, 10, 4, 8, 9, 15, 13, 6, 1, 12, 0, 2, 11, 7, 5, 3],
    #[11, 8, 12, 0, 5, 2, 15, 13, 10, 14, 3, 6, 7, 1, 9, 4],
    #[7, 9, 3, 1, 13, 12, 11, 14, 2, 6, 5, 10, 4, 0, 15, 8],
    #[9, 0, 5, 7, 2, 4, 10, 15, 14, 1, 11, 12, 6, 8, 3, 13],
    #[2, 12, 6, 10, 0, 11, 8, 3, 4, 13, 7, 5, 15, 14, 1, 9],
    #[12, 5, 1, 15, 14, 13, 4, 10, 0, 7, 6, 3, 9, 2, 8, 11],
    #[13, 11, 7, 14, 12, 1, 3, 9, 5, 0, 15, 4, 8, 6, 2, 10],
    #[6, 15, 14, 9, 11, 3, 0, 8, 12, 2, 13, 7, 1, 4, 10, 5],
    #[10, 2, 8, 4, 7, 6, 1, 5, 15, 11, 9, 14, 3, 12, 13, 0]]

/-- The words of the state that are mixed in a round: columns, and then diagonals. -/
def mixes : List (Nat × Nat × Nat × Nat) :=
  [(0, 4, 8, 12), (1, 5, 9, 13), (2, 6, 10, 14), (3, 7, 11, 15),
   (0, 5, 10, 15), (1, 6, 11, 12), (2, 7, 8, 13), (3, 4, 9, 14)]

/-- Mixes four words of a state with two words of a block. -/
def mix (v : Array UInt64) (place : Nat × Nat × Nat × Nat) (x y : UInt64) : Array UInt64 :=
  let (i, j, k, l) := place
  let at_ := fun (n : Nat) => v.getD n 0
  let a := at_ i + at_ j + x
  let d := turned (at_ l ^^^ a) 32
  let c := at_ k + d
  let b := turned (at_ j ^^^ c) 24
  let a := a + b + y
  let d := turned (d ^^^ a) 16
  let c := c + d
  let b := turned (b ^^^ c) 63
  (((v.setIfInBounds i a).setIfInBounds j b).setIfInBounds k c).setIfInBounds l d

/-- A round with the words of a block. -/
def mixRound (block v : Array UInt64) (round : Nat) : Array UInt64 :=
  let order := orders.getD (round % 10) #[]
  mixes.zipIdx.foldl (fun v (place, i) =>
    let word := fun (n : Nat) => block.getD (order.getD n 0) 0
    mix v place (word (2 * i)) (word (2 * i + 1))) v

/-- The state after a block: the number of bytes up to there is known, and whether it is the
last. -/
def absorb (s : Array UInt64) (piece : Bytes) (count : Nat) (last : Bool) : Array UInt64 :=
  let filled := piece ++ List.replicate (blockSize - piece.length) 0
  let block := (words (fun bytes => number bytes.reverse) 16 filled).toArray
  let start := s ++ firstRoots
  let start := start.modify 12 (· ^^^ count.toUInt64)
  let start := if last then start.modify 14 (~~~ ·) else start
  let v := (List.range 12).foldl (mixRound block) start
  ((List.range 8).map fun i => s.getD i 0 ^^^ v.getD i 0 ^^^ v.getD (i + 8) 0).toArray

/-- The digest of a content with so many bytes, 64 at most. -/
def blake2b (size : Nat) (content : Bytes) : Bytes :=
  let start := firstRoots.modify 0 (· ^^^ (0x01010000 + size).toUInt64)
  let all := match pieces content (content.length + 1) with
    | [] => [[]]
    | found => found
  let (final, _) := all.zipIdx.foldl (fun (s, count) (piece, i) =>
    let count := count + piece.length
    (absorb s piece count (i + 1 = all.length), count)) (start, 0)
  (final.toList.flatMap fun w => leastFirst 8 w.toNat).take size

end CommandShell.Text.WideDigest
