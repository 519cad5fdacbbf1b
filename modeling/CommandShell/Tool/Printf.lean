import CommandShell.Text.Format
import CommandShell.Text.Regex
import CommandShell.Tool.Number
import CommandShell.Tool.Words

/-!
# Formatted output

The tool `printf` writes arguments as a text with directives asks for. The text is used again as
long as there are arguments for it.
-/

namespace CommandShell.Tool

namespace Printf

/-- The arguments that are not used yet. -/
abbrev Printing (α : Type) : Type :=
  StateT (List Bytes) (ExceptT Unit (StateT Desk Program)) α

/-- A complaint that makes the tool fail. -/
def blame (what : Bytes) : Printing Unit :=
  StateT.lift (Work.complain what)

/-- The next argument, or nothing if there is none. -/
def next? : Printing (Option Bytes) := do
  match ← get with
  | [] => return none
  | a :: rest =>
    set rest
    return some a

/-- The number of a character constant. What follows it is worth a warning. -/
def constant? (text : Bytes) : Printing (Option Nat) := do
  match text with
  | q :: b :: rest =>
    if q = 0x27 ∨ q = 0x22 then
      if rest ≠ [] then
        StateT.lift (Work.say (utf8 "warning: " ++ rest ++
          utf8 ": character(s) following character constant have been ignored"))
      return some b.toNat
    else return none
  | _ => return none

/-- Says what is wrong with a number. -/
def checkNumber (text rest : Bytes) (tooGreat : Bool) : Printing Unit := do
  if tooGreat then blame (Quote.plain text ++ utf8 (": " ++ Errno.outOfRange.libraryText))
  else if rest ≠ [] then
    blame (Quote.plain text ++ utf8 (if rest = text then ": expected a numeric value"
      else ": value not completely converted"))

/-- The whole number that a text begins with, in the base that it asks for, and the rest. -/
def wholeNumber (text : Bytes) : Int × Bytes :=
  let body := text.dropWhile fun b => b = 0x20 || (0x09 ≤ b && b ≤ 0x0D)
  let (negative, body) := match body with
    | 0x2D :: rest => (true, rest)
    | 0x2B :: rest => (false, rest)
    | _ => (false, body)
  let take := fun (base : Nat) (body : Bytes) =>
    let digits := body.takeWhile fun b => ((hexDigit? b).map fun d => decide (d < base)).getD false
    let n := digits.foldl (fun n b => n * base + (hexDigit? b).getD 0) 0
    if digits = [] then (0, text)
    else ((if negative then -(n : Int) else n), body.drop digits.length)
  match body with
  | 0x30 :: x :: d :: rest =>
    if (x = 0x78 ∨ x = 0x58) ∧ (hexDigit? d).isSome then take 16 (d :: rest) else take 8 body
  | 0x30 :: _ => take 8 body
  | _ => take 10 body

/-- A text as a whole number with a sign, within its range. -/
def signedOf (text : Bytes) : Printing Int := do
  match ← constant? text with
  | some n => return n
  | none =>
    let (n, rest) := wholeNumber text
    let value := max (-0x8000000000000000) (min n 0x7FFFFFFFFFFFFFFF)
    checkNumber text rest (value ≠ n)
    return value

/-- A text as a whole number without a sign, within its range. -/
def unsignedOf (text : Bytes) : Printing Nat := do
  match ← constant? text with
  | some n => return n
  | none =>
    let (n, rest) := wholeNumber text
    let excessive := decide (0x10000000000000000 ≤ n.natAbs)
    checkNumber text rest excessive
    return if excessive then 0xFFFFFFFFFFFFFFFF else (n % 0x10000000000000000).toNat

/-- A text as a number with a fraction. -/
def realOf (text : Bytes) : Printing Text.Format.Real := do
  match ← constant? text with
  | some n => return .finite false n 0
  | none =>
    let ((r, tooGreat), rest) := Text.Format.Real.read .extended text
    checkNumber text rest tooGreat
    return r

/-- The text of a character that is given by its number. Those that are not among the first 128 are
written by their numbers. -/
def characterText (n : Nat) : Bytes :=
  if n < 0x80 then [n.toUInt8]
  else
    let digits := (Nat.toDigits 16 n).map Char.toUpper
    let size := if n < 0x10000 then 4 else 8
    utf8 (if size = 4 then "\\u" else "\\U") ++
      List.replicate (size - digits.length) 0x30 ++ utf8 (String.ofList digits)

/-- Writes the bytes that an escape stands for, after its backslash; the answer is what follows.
Numbers in base eight may have a zero more in front. The output may end here. -/
def escape (zero : Bool) (rest : Bytes) : Printing Bytes := do
  let put : Bytes → Printing Unit := fun b => StateT.lift (Work.put b)
  match rest with
  | 0x78 :: more =>
    let digits := (more.take 2).takeWhile fun b => (hexDigit? b).isSome
    if digits = [] then StateT.lift (Work.fail 1 (utf8 "missing hexadecimal number in escape"))
    let n := digits.foldl (fun n b => n * 16 + (hexDigit? b).getD 0) 0
    put [UInt8.ofNat n]
    return more.drop digits.length
  | 0x75 :: more => character 0x75 4 more
  | 0x55 :: more => character 0x55 8 more
  | 0x63 :: _ => StateT.lift (Work.exit 0)
  | 0x22 :: more =>
    put [0x22]
    return more
  | 0x30 :: more =>
    let body := if zero then more else rest
    let digits := (body.take 3).takeWhile isOctal
    put [octalByte digits]
    return body.drop digits.length
  | _ =>
    match Text.escapeOf rest with
    | some (b, rest) =>
      put [b]
      return rest
    | none =>
      put (0x5C :: rest.take 1)
      return rest.drop 1
where
  /-- Writes a character that is given by so many digits. -/
  character (letter : UInt8) (size : Nat) (more : Bytes) : Printing Bytes := do
    let digits := (more.take size).takeWhile fun b => (hexDigit? b).isSome
    if digits.length < size then
      StateT.lift (Work.fail 1 (utf8 "missing hexadecimal number in escape"))
    let n := digits.foldl (fun n b => n * 16 + (hexDigit? b).getD 0) 0
    if 0xD800 ≤ n ∧ n < 0xE000 then
      let lower := digits.map Text.Regex.lower
      StateT.lift (Work.fail 1 (utf8 "invalid universal character name \\" ++ letter :: lower))
    StateT.lift (Work.put (characterText n))
    return more.drop size

/-- Writes a text with its escapes replaced. -/
def escapedText : Nat → Bytes → Printing Unit
  | 0, _ => return ()
  | fuel + 1, text => do
    let front := text.takeWhile (· ≠ 0x5C)
    StateT.lift (Work.put front)
    match text.drop front.length with
    | [] => return ()
    | _ :: rest => escapedText fuel (← escape true rest)

/-- The letters that a directive may end with after a flag. -/
def without (letters : Bytes) (flag : UInt8) : Bytes :=
  let no := fun (s : String) => letters.filter fun b => !(utf8 s).contains b
  match flag with
  | 0x27 => no "aAceEosxX"
  | 0x49 => no "aAceEosxX"
  | 0x23 => no "cdisu"
  | 0x30 => no "cs"
  | _ => letters

/-- A width or a precision: digits, or a star for an argument. -/
def size (what : String) (text : Bytes) : Printing (Option Int × Bytes) := do
  match text with
  | 0x2A :: rest =>
    match ← next? with
    | none => return (some 0, rest)
    | some a =>
      let n ← signedOf a
      if n < -0x80000000 ∨ 0x80000000 ≤ n then
        StateT.lift (Work.fail 1 (utf8 ("invalid " ++ what ++ ": ") ++ Quote.plain a))
      return (some n, rest)
  | _ =>
    let digits := text.takeWhile Amount.isDigit
    return (if digits = [] then none else some (Amount.count digits : Int), text.drop digits.length)

/-- Writes what a directive asks for, after its percent sign; the answer is what follows. -/
def directive (text : Bytes) : Printing Bytes := do
  let put : Bytes → Printing Unit := fun b => StateT.lift (Work.put b)
  match text with
  | 0x25 :: rest =>
    put [0x25]
    return rest
  | 0x62 :: rest =>
    match ← next? with
    | some a => escapedText (a.length + 1) a
    | none => pure ()
    return rest
  | 0x71 :: rest =>
    match ← next? with
    | some a => put (Quote.name a)
    | none => pure ()
    return rest
  | _ =>
    let flags := text.takeWhile (utf8 "I'-+ #0").contains
    let letters := flags.foldl without (utf8 "aAcdeEfFgGiosuxX")
    let format := flags.foldl (·.flag ·) Text.Format.plain
    let (width, rest) ← size "field width" (text.drop flags.length)
    let format := match width with
      | some n => format.setWidth n
      | none => format
    let pointed := rest.head? = some 0x2E
    let letters := if pointed then letters.filter (· ≠ 0x63) else letters
    let (format, rest) ← if pointed then do
        let (precision, rest) ← size "precision" rest.tail
        pure (format.setPrecision (precision.getD 0), rest)
      else pure (format, rest)
    let rest := rest.dropWhile (utf8 "lLhjtz").contains
    let b := rest.head?.getD 0
    let after := rest.tail
    if !letters.contains b then
      let shown := 0x25 :: text.take (text.length - after.length)
      StateT.lift (Work.fail 1 (shown ++ utf8 ": invalid conversion specification"))
    let a := (← next?).getD []
    if b = 0x73 then put (format.text a)
    else if b = 0x63 then put ({ format with precision := none }.text [a.head?.getD 0])
    else if b = 0x64 ∨ b = 0x69 then put (format.signed (← signedOf a))
    else if b = 0x75 then put (format.unsigned 10 false (← unsignedOf a))
    else if b = 0x6F then put (format.unsigned 8 false (← unsignedOf a))
    else if b = 0x78 ∨ b = 0x58 then put (format.unsigned 16 (b = 0x58) (← unsignedOf a))
    else put (format.real .extended b (← realOf a))
    return after

/-- Writes a text with directives once. -/
def once : Nat → Bytes → Printing Unit
  | 0, _ => return ()
  | fuel + 1, text => do
    match text with
    | [] => return ()
    | 0x25 :: rest => once fuel (← directive rest)
    | 0x5C :: rest => once fuel (← escape false rest)
    | _ =>
      let front := text.takeWhile fun b => b ≠ 0x25 ∧ b ≠ 0x5C
      StateT.lift (Work.put front)
      once fuel (text.drop front.length)

/-- Writes a text with directives as often as there are arguments for it. -/
def again (text : Bytes) : Nat → Printing Unit
  | 0 => return ()
  | fuel + 1 => do
    let before := (← get).length
    once (text.length + 1) text
    let left := ← get
    match left with
    | [] => return ()
    | a :: _ =>
      if left.length = before then
        StateT.lift (Work.say (utf8 "warning: ignoring excess arguments, starting with " ++
          Quote.plain a))
      else again text fuel

end Printf

/-- Writes arguments as a text with directives asks for. -/
def printf (args : List Bytes) : Work Unit := do
  let words := match args with
    | [0x2D, 0x2D] :: rest => rest
    | _ => args
  match words with
  | [] => Work.missingOperand 1
  | text :: values =>
    let _ ← (Printf.again text (values.length + 1)).run values

end CommandShell.Tool
