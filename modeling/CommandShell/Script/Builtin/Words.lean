import CommandShell.Script.Find
import CommandShell.Text.Format

/-!
# Commands of the shell that write

The words that a command of the shell is given are taken apart here: options in front, and numbers.
Then come the commands that only write: `echo` and `printf`.
-/

namespace CommandShell.Script

namespace Act

/-- The options in front of words, as a text says which there are; a colon after a letter asks for
a word with it. The other words are the second part of the answer. -/
def optionsOf (spec : String) : Nat → List Bytes → List (UInt8 × Bytes) →
    Act (List (UInt8 × Bytes) × List Bytes)
  | 0, args, done => return (done.reverse, args)
  | fuel + 1, args, done =>
    match args with
    | (0x2D :: b :: letters) :: rest =>
      if b = 0x2D ∧ letters = [] then return (done.reverse, rest)
      else lettersOf fuel b letters rest done
    | _ => return (done.reverse, args)
where
  /-- The letters of a word. -/
  lettersOf (fuel : Nat) (b : UInt8) (letters : Bytes) (rest : List Bytes)
      (done : List (UInt8 × Bytes)) : Act (List (UInt8 × Bytes) × List Bytes) := do
    let known := utf8 spec
    let place := known.idxOf b
    if b = 0x3A ∨ known.length ≤ place then fail (utf8 "Illegal option -" ++ [b])
    if known[place + 1]? = some 0x3A then
      match letters, rest with
      | [], [] => fail (utf8 "No arg for -" ++ [b] ++ utf8 " option")
      | [], word :: rest => optionsOf spec fuel rest ((b, word) :: done)
      | _, _ => optionsOf spec fuel rest ((b, letters) :: done)
    else
      match letters with
      | [] => optionsOf spec fuel rest ((b, []) :: done)
      | c :: letters =>
        optionsOf spec fuel ((0x2D :: c :: letters) :: rest) ((b, []) :: done)

/-- The options in front of words, and the other words. -/
def options (spec : String) (args : List Bytes) : Act (List (UInt8 × Bytes) × List Bytes) :=
  optionsOf spec (sumOf (args.map (·.length + 1)) + 1) args []

/-- The number that a word spells. -/
def number (word : Bytes) : Act Nat := do
  match Arithmetic.count? word with
  | some n => return n
  | none => fail (utf8 "Illegal number: " ++ word)

/-- What a text with escapes stands for, and whether it asks for an end. Numbers in base eight may
have a zero in front. -/
def unescape : Nat → Bytes → Bytes → Bytes × Bool
  | 0, _, done => (done.reverse, false)
  | fuel + 1, text, done =>
    match text with
    | [] => (done.reverse, false)
    | 0x5C :: 0x63 :: _ => (done.reverse, true)
    | 0x5C :: rest =>
      let rest' := match rest with
        | 0x30 :: d :: more => if 0x30 ≤ d ∧ d ≤ 0x37 then d :: more else rest
        | _ => rest
      match Text.escapeOf rest' with
      | some (b, rest) => unescape fuel rest (b :: done)
      | none => unescape fuel rest (0x5C :: done)
    | b :: rest => unescape fuel rest (b :: done)

/-- What a text with escapes stands for, and whether it asks for an end. -/
def unescaped (text : Bytes) : Bytes × Bool :=
  unescape (text.length + 1) text []

/-- Writes words with blanks between them. -/
def echo (args : List Bytes) : Act Nat := do
  let (newline, words) := match args with
    | [0x2D, 0x6E] :: rest => (false, rest)
    | _ => (true, args)
  go newline words
  return 0
where
  /-- Writes one word after the other. -/
  go (newline : Bool) : List Bytes → Act Unit
    | [] => if newline then say [0x0A] else return ()
    | word :: rest => do
      let (shown, ends) := unescaped word
      say shown
      if ends then return ()
      if rest ≠ [] then
        say [0x20]
        go newline rest
      else if newline then say [0x0A]

/-! ### Formatted output -/

/-- What is left of the arguments of a formatted output, and whether one of them was at fault. -/
structure Printing where
  /-- The arguments that are not used yet. -/
  left : List Bytes
  /-- Whether some argument was at fault. -/
  faulty : Bool

/-- Formatted output. -/
abbrev Print (α : Type) : Type := StateT Printing (ExceptT Stop (StateT Shell Program)) α

/-- The next argument. -/
def nextArgument : Print (Option Bytes) := do
  match (← get).left with
  | [] => return none
  | a :: rest =>
    modify fun p => { p with left := rest }
    return some a

/-- Complains of an argument and goes on. -/
def blame (what : Bytes) : Print Unit := do
  warn what
  modify fun p => { p with faulty := true }

/-- The greatest number without a sign. -/
def greatestUnsigned : Int := 0xFFFFFFFFFFFFFFFF

/-- The next argument as a number. -/
def nextNumber (signed : Bool) : Print Int := do
  match ← nextArgument with
  | none => return 0
  | some a =>
    match a with
    | 0x27 :: b :: _ => return Pattern.order b
    | 0x22 :: b :: _ => return Pattern.order b
    | _ =>
      let body := a.dropWhile Arithmetic.isSpace
      let (negative, digits) := match body with
        | 0x2D :: rest => (true, rest)
        | 0x2B :: rest => (false, rest)
        | _ => (false, body)
      let (n, rest) := if (digits.head?.map Word.isDigit).getD false
        then Arithmetic.leadingNumber digits else (0, a)
      let exact : Int := if negative then -n else n
      let (low, high) := if signed then (Arithmetic.least, Arithmetic.greatest)
        else (-greatestUnsigned, greatestUnsigned)
      let tooGreat := exact < low || high < exact
      let value := if exact < low then (if signed then low else high)
        else if high < exact then high else exact
      if rest ≠ [] then
        if rest = a then blame (a ++ utf8 ": expected numeric value")
        else blame (a ++ utf8 ": not completely converted")
      else if tooGreat then blame (a ++ utf8 (": " ++ Errno.outOfRange.libraryText))
      return value

/-- The next argument as a number with a fraction. -/
def nextReal : Print Text.Format.Real := do
  match ← nextArgument with
  | none => return .finite false 0 0
  | some a =>
    match a with
    | 0x27 :: b :: _ => return .finite (0x80 ≤ b) (Pattern.order b).natAbs 0
    | 0x22 :: b :: _ => return .finite (0x80 ≤ b) (Pattern.order b).natAbs 0
    | _ =>
      let ((value, tooGreat), rest) := Text.Format.Real.read .double a
      if rest ≠ [] then
        if rest = a then blame (a ++ utf8 ": expected numeric value")
        else blame (a ++ utf8 ": not completely converted")
      else if tooGreat then blame (a ++ utf8 (": " ++ Errno.outOfRange.libraryText))
      return value

/-- The flags of a directive. -/
def flagsOf (f : Text.Format) : Bytes → Text.Format × Bytes
  | b :: rest =>
    if (utf8 "#-+ 0").contains b then flagsOf (f.flag b) rest else (f, b :: rest)
  | [] => (f, [])

/-- A number in a directive, or one that an argument gives, of which only the last 32 bits count. -/
def sizeOf (text : Bytes) : Print (Option Int × Bytes) := do
  match text with
  | 0x2A :: rest => return (some ((← nextNumber true).bmod 0x100000000), rest)
  | _ =>
    let digits := text.takeWhile Word.isDigit
    return (if digits = [] then none else some (Arithmetic.numberOf 10 digits : Int),
      text.drop digits.length)

/-- Writes what a directive asks for. The answer is what follows it, unless the output ends. -/
def directive (text : Bytes) : Print (Option Bytes) := do
  let (f, rest) := flagsOf .plain text
  let (width, rest) ← sizeOf rest
  let f := match width with
    | some n => f.setWidth n
    | none => f
  let (f, rest) ← match rest with
    | 0x2E :: rest => do
      let (precision, rest) ← sizeOf rest
      pure (f.setPrecision (precision.getD 0), rest)
    | _ => pure (f, rest)
  match rest with
  | [] => fail (utf8 "missing format character")
  | b :: after =>
    let unsigned : Nat → Bool → Print (Option Bytes) := fun base upper => do
      let n ← nextNumber false
      say (f.unsigned base upper (n % 0x10000000000000000).toNat)
      return some after
    match b with
    | 0x62 =>
      let (shown, ends) := unescaped ((← nextArgument).getD [])
      say (f.text shown)
      return if ends then none else some after
    | 0x63 =>
      say ({ f with precision := none }.text [((← nextArgument).getD []).headD 0])
      return some after
    | 0x73 =>
      say (f.text ((← nextArgument).getD []))
      return some after
    | 0x64 =>
      say (f.signed (← nextNumber true))
      return some after
    | 0x69 =>
      say (f.signed (← nextNumber true))
      return some after
    | 0x6F => unsigned 8 false
    | 0x75 => unsigned 10 false
    | 0x78 => unsigned 16 false
    | 0x58 => unsigned 16 true
    | _ =>
      if (utf8 "aAeEfFgG").contains b then
        say (f.real .double b (← nextReal))
        return some after
      else
        let shown := text.take (text.length - after.length)
        fail (0x25 :: shown ++ utf8 ": invalid directive")

/-- Writes a text with directives once. The answer is whether the output goes on. -/
def printOnce : Nat → Bytes → Print Bool
  | 0, _ => return false
  | fuel + 1, text => do
    match text with
    | [] => return true
    | 0x5C :: rest =>
      match Text.escapeOf rest with
      | some (b, rest) =>
        say [b]
        printOnce fuel rest
      | none =>
        say [0x5C]
        printOnce fuel rest
    | 0x25 :: 0x25 :: rest =>
      say [0x25]
      printOnce fuel rest
    | 0x25 :: rest =>
      match ← directive rest with
      | some rest => printOnce fuel rest
      | none => return false
    | b :: rest =>
      say [b]
      printOnce fuel rest

/-- Writes a text with directives as often as there are arguments for it. -/
def printAll (text : Bytes) : Nat → Print Unit
  | 0 => return ()
  | fuel + 1 => do
    let before := (← get).left.length
    if ← printOnce (text.length + 1) text then
      let left := (← get).left.length
      if left ≠ 0 ∧ left ≠ before then printAll text fuel

/-- Writes arguments as a text with directives asks for. -/
def printf (args : List Bytes) : Act Nat := do
  let (_, words) ← options "" args
  match words with
  | [] => fail (utf8 "usage: printf format [arg ...]")
  | text :: left =>
    let (_, p) ← (printAll text (left.length + 1)).run ⟨left, false⟩
    return if p.faulty then 1 else 0

end Act

end CommandShell.Script
