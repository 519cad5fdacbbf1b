import CommandShell.Tool.Input
import CommandShell.Tool.Words

/-!
# Prime factors

A number is written with its prime factors. A small divisor is found by trying; a great one as the
divisor that the difference of two numbers has in common with it, which are far apart in a sequence
that must come back to itself.
-/

namespace CommandShell.Tool

open Work

namespace Factors

/-- A power of a number as a remainder. -/
def power (m : Nat) : Nat → Nat → Nat → Nat
  | 0, _, _ => 1 % m
  | fuel + 1, base, exponent =>
    if exponent = 0 then 1 % m
    else
      let half := power m fuel (base * base % m) (exponent / 2)
      if exponent % 2 = 1 then half * base % m else half

/-- Whether squaring a remainder so many times comes to one below the number. -/
def reaches (n : Nat) : Nat → Nat → Bool
  | 0, _ => false
  | times + 1, x => x = n - 1 || reaches n times (x * x % n)

/-- The number of times that a number can be halved, and what is left. -/
def halvings : Nat → Nat → Nat × Nat
  | 0, n => (0, n)
  | fuel + 1, n =>
    if n % 2 = 0 then
      let (times, odd) := halvings fuel (n / 2)
      (times + 1, odd)
    else (0, n)

/-- Whether an odd number is prime as far as some bases show. Up to 81 bits they show everything. -/
def isPrime (n : Nat) : Bool :=
  let (times, odd) := halvings n.log2 (n - 1)
  [2, 3, 5, 7, 11, 13, 17, 19, 23, 29, 31, 37, 41].all fun base =>
    base % n = 0 ||
      let x := power n (odd.log2 + 1) (base % n) odd
      x = 1 || reaches n times x

/-- The small divisors of a number, one after the other, and what is left. -/
def small : Nat → Nat → Nat → List Nat × Nat
  | 0, _, n => ([], n)
  | fuel + 1, d, n =>
    if n < d * d then ([], n)
    else if n % d = 0 then
      let (found, rest) := small fuel d (n / d)
      (d :: found, rest)
    else small fuel (if d = 2 then 3 else d + 2) n

/-- A divisor that is found on a sequence on which one place goes twice as fast as another. -/
def walk (n c : Nat) : Nat → Nat → Nat → Nat
  | 0, _, _ => n
  | fuel + 1, slow, fast =>
    let next := fun (x : Nat) => (x * x + c) % n
    let slow := next slow
    let fast := next (next fast)
    let d := Nat.gcd n (if slow ≤ fast then fast - slow else slow - fast)
    if d = 1 then walk n c fuel slow fast else d

/-- A divisor of a number that is not prime, out of several sequences. -/
def divisor (n : Nat) : Nat → Nat → Nat
  | 0, _ => n
  | fuel + 1, c =>
    let d := walk n c 0x4000000 2 2
    if d = n then divisor n fuel (c + 1) else d

/-- The factors of a number without small divisors. -/
def great : Nat → Nat → List Nat
  | 0, n => [n]
  | fuel + 1, n =>
    if n = 1 then []
    else if isPrime n then [n]
    else
      let d := divisor n 16 1
      great fuel d ++ great fuel (n / d)

/-- The prime factors of a number, in order. -/
def of (n : Nat) : List Nat :=
  if n = 0 then []
  else
    let (found, rest) := small 4096 2 n
    found ++ (great 128 rest).mergeSort

/-- Factors with the number of times that they are there. -/
def counted (factors : List Nat) : List (Nat × Nat) :=
  factors.foldr (fun p done =>
    match done with
    | (q, n) :: rest => if p = q then (q, n + 1) :: rest else (p, 1) :: done
    | [] => [(p, 1)]) []

/-- Writes a number with its factors. -/
def write (powers : Bool) (text : Bytes) : Work Unit := do
  let digits := match text.dropWhile (· = 0x20) with
    | 0x2B :: rest => rest
    | rest => rest
  if digits = [] ∨ !digits.all Amount.isDigit then
    complain (Quote.plain text ++ utf8 " is not a valid positive integer")
  else
    let n := Amount.count digits
    let shown := if powers then
        (counted (of n)).map fun p => if p.2 = 1 then toString p.1 else s!"{p.1}^{p.2}"
      else (of n).map toString
    putLine (utf8 (toString n ++ ":" ++ String.join (shown.map (" " ++ ·))))

end Factors

/-- Writes numbers with their prime factors. -/
def factor (args : List Bytes) : Work Unit := do
  let f ← Options.read [.flag "h" "exponents"] true 1 args
  let powers := f.has "h"
  if f.operands ≠ [] then
    for text in f.operands do
      Factors.write powers text
  else
    let _ ← (Source.ofOpen 0).foldLines 0x0A () fun _ l => do
      for text in wordsOf l.bytes do
        Factors.write powers text
where
  /-- The words of a line. -/
  wordsOf (line : Bytes) : List Bytes :=
    (line.splitBy fun a b => isBlank a = isBlank b).filter fun part => !part.all isBlank
  /-- Whether a byte stands between words. -/
  isBlank (b : UInt8) : Bool :=
    b = 0x20 || b = 0x09 || b = 0x0A

end CommandShell.Tool
