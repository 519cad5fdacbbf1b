import CommandShell.Text.Collation
import CommandShell.Tool.Column

/-!
# Putting lines in order

Lines are compared by one key after the other. A key is a part of a line, from a field on up to a
field, and says how these parts are compared. Lines whose keys are all alike are compared as a
whole, unless lines with the same keys are to count as the same.
-/

namespace CommandShell.Tool

open Work Text

namespace Sorting

/-- How the parts of two lines are compared. -/
structure Rule where
  /-- Blanks at the start of the part do not count. -/
  skipsStart : Bool
  /-- Blanks in front of the end of the part do not count. -/
  skipsEnd : Bool
  /-- Only blanks, letters and digits count. -/
  dictionary : Bool
  /-- Only bytes that can be shown count. -/
  printable : Bool
  /-- Upper and lower case are the same. -/
  folds : Bool
  /-- The parts are compared as numbers. -/
  numeric : Bool
  /-- The parts are compared as numbers with an exponent. -/
  general : Bool
  /-- The parts are compared as numbers with a unit. -/
  human : Bool
  /-- The parts are compared as months. -/
  month : Bool
  /-- The parts are compared as versions. -/
  version : Bool
  /-- The parts are in no particular order. -/
  random : Bool
  /-- The order is reversed. -/
  reverse : Bool
deriving DecidableEq

namespace Rule

/-- The order of bytes. -/
def plain : Rule :=
  ⟨false, false, false, false, false, false, false, false, false, false, false, false⟩

/-- Whether a rule is that of bytes, or its reverse. -/
def isPlain (r : Rule) : Bool :=
  { r with reverse := false } = plain

/-- A rule with what a letter says; where it stands in a key decides which blanks are meant. -/
def set? (r : Rule) (start finish : Bool) (letter : UInt8) : Option Rule :=
  match letter with
  | 0x62 => some { r with skipsStart := r.skipsStart || start, skipsEnd := r.skipsEnd || finish }
  | 0x64 => some { r with dictionary := true, printable := false }
  | 0x66 => some { r with folds := true }
  | 0x67 => some { r with general := true }
  | 0x68 => some { r with human := true }
  | 0x69 => some { r with printable := !r.dictionary }
  | 0x4D => some { r with month := true }
  | 0x6E => some { r with numeric := true }
  | 0x52 => some { r with random := true }
  | 0x72 => some { r with reverse := true }
  | 0x56 => some { r with version := true }
  | _ => none

/-- The letters of a rule that say how the parts are read. -/
def letters (r : Rule) : String :=
  let all := [(r.dictionary, 'd'), (r.folds, 'f'), (r.general, 'g'), (r.human, 'h'),
    (r.printable, 'i'), (r.month, 'M'), (r.numeric, 'n'), (r.random, 'R'), (r.version, 'V')]
  String.ofList ((all.filter (·.1)).map (·.2))

/-- Whether a rule reads the parts in two ways. -/
def isContradictory (r : Rule) : Bool :=
  let ways := [r.numeric, r.general, r.human, r.month,
    r.version || r.random || r.dictionary || r.printable]
  decide (1 < (ways.filter id).length)

/-- Whether a byte counts. -/
def counts (r : Rule) (b : UInt8) : Bool :=
  if r.dictionary then Collation.isBlank b || Collation.isLetter b || Collation.isDigit b
  else if r.printable then 0x20 ≤ b && b ≤ 0x7E
  else true

/-- The bytes of a part that are compared. -/
def shown (r : Rule) (part : Bytes) : Bytes :=
  let part := if r.dictionary ∨ r.printable then part.filter r.counts else part
  if r.folds then part.map Regex.upper else part

/-- The order of two parts. -/
def order (r : Rule) (a b : Bytes) : Ordering :=
  let a := r.shown a
  let b := r.shown b
  let o :=
    if r.numeric then Collation.numeric a b
    else if r.general then Collation.general a b
    else if r.human then Collation.human a b
    else if r.month then Collation.month a b
    else if r.version then Collation.version a b
    else Collation.bytes a b
  if r.reverse then o.swap else o

end Rule

/-- A part of lines, and how it is compared. -/
structure Key where
  /-- The number of fields in front of it. -/
  startField : Nat
  /-- The number of bytes of the first field in front of it. -/
  startByte : Nat
  /-- The number of fields up to its end and the number of bytes after them, unless it goes to the
  end of the line. -/
  finish : Option (Nat × Nat)
  /-- How it is compared. -/
  rule : Rule

namespace Key

/-- The number of bytes in front of what follows some fields. -/
def skipFields (separator : Option UInt8) : Nat → Bytes → Nat
  | 0, _ => 0
  | n + 1, text =>
    let size := match separator with
      | some b =>
        let field := text.takeWhile (· ≠ b)
        min text.length (field.length + 1)
      | none =>
        let blanks := text.takeWhile Collation.isBlank
        let field := (text.drop blanks.length).takeWhile fun b => !Collation.isBlank b
        blanks.length + field.length
    if size = 0 then 0 else size + skipFields separator n (text.drop size)

/-- The number of blanks at the beginning of a text. -/
def blanksOf (text : Bytes) : Nat :=
  (text.takeWhile Collation.isBlank).length

/-- Where the key starts in a line. -/
def start (k : Key) (separator : Option UInt8) (line : Bytes) : Nat :=
  let field := skipFields separator k.startField line
  let blanks := if k.rule.skipsStart then blanksOf (line.drop field) else 0
  min line.length (field + blanks + k.startByte)

/-- Where the key ends in a line. -/
def stop (k : Key) (separator : Option UInt8) (line : Bytes) : Nat :=
  match k.finish with
  | none => line.length
  | some (fields, 0) =>
    let past := skipFields separator (fields + 1) line
    match separator with
    | some b =>
      let whole := (line.take past).count b = fields + 1
      if whole then past - 1 else past
    | none => past
  | some (fields, bytes) =>
    let field := skipFields separator fields line
    let blanks := if k.rule.skipsEnd then blanksOf (line.drop field) else 0
    min line.length (field + blanks + bytes)

/-- The part of a line that the key is. -/
def part (k : Key) (separator : Option UInt8) (line : Bytes) : Bytes :=
  let from_ := k.start separator line
  (line.take (k.stop separator line)).drop from_

end Key

/-- How lines are put in order. -/
structure Manner where
  /-- The keys. -/
  keys : List Key
  /-- What separates fields, unless blanks do. -/
  separator : Option UInt8
  /-- The order of lines as a whole is reversed. -/
  reverse : Bool
  /-- Lines with the same keys are the same. -/
  unique : Bool
  /-- Lines with the same keys stay in their order. -/
  stable : Bool

namespace Manner

/-- The order of two lines by their keys. -/
def byKeys (m : Manner) (a b : Bytes) : Ordering :=
  m.keys.foldl (fun o k =>
    if o = .eq then k.rule.order (k.part m.separator a) (k.part m.separator b) else o) .eq

/-- The order of two lines. -/
def order (m : Manner) (a b : Bytes) : Ordering :=
  let o := m.byKeys a b
  if o ≠ .eq ∨ (m.keys ≠ [] ∧ (m.unique ∨ m.stable)) then o
  else
    let o := Collation.bytes a b
    if m.reverse then o.swap else o

/-- Leaves out lines that are the same as the one before. -/
def distinct (m : Manner) : List Bytes → List Bytes
  | [] => []
  | a :: rest =>
    match distinct m rest with
    | [] => [a]
    | b :: more => if m.order a b = .eq then a :: more else a :: b :: more

/-- Puts lines in order. -/
def sorted (m : Manner) (lines : List Bytes) : List Bytes :=
  lines.mergeSort fun a b => m.order a b ≠ .gt

/-- Merges lists of lines, as they would be put in order if each of them is. -/
def merged (m : Manner) (lists : List (List Bytes)) : List Bytes :=
  lists.foldl (fun a b => List.merge a b fun x y => m.order x y ≠ .gt) []

/-- The first line that should not follow the one before, with its number. -/
def disorder? (m : Manner) : Nat → List Bytes → Option (Nat × Bytes)
  | n, a :: b :: rest =>
    let o := m.order a b
    if o = .gt ∨ (m.unique ∧ o = .eq) then some (n + 1, b) else disorder? m (n + 1) (b :: rest)
  | _, _ => none

end Manner

/-! ### Descriptions of keys -/

/-- Reads a number. -/
def number? (complaint : String) (text : Bytes) : Except Bytes (Nat × Bytes) :=
  let digits := text.takeWhile Collation.isDigit
  if digits = [] then
    .error (utf8 (complaint ++ ": invalid count at start of ") ++ Quote.plain text)
  else .ok (Collation.count digits, text.drop digits.length)

/-- Reads letters of a rule. -/
def letters (start finish : Bool) (r : Rule) : Bytes → Rule × Bytes
  | [] => (r, [])
  | b :: rest =>
    match r.set? start finish b with
    | some r => letters start finish r rest
    | none => (r, b :: rest)

/-- What is said of a description that is wrong. -/
def wrong {α : Type} (what : String) (text : Bytes) : Except Bytes α :=
  .error (utf8 (what ++ ": invalid field specification ") ++ Quote.plain text)

/-- Reads the number of a byte, if there is one. -/
def byteOf (text : Bytes) : Except Bytes (Option Nat × Bytes) :=
  match text with
  | 0x2E :: rest => (number? "invalid number after '.'" rest).map fun r => (some r.1, r.2)
  | _ => .ok (none, text)

/-- The key that a text describes. -/
def keyOf (text : Bytes) : Except Bytes Key := do
  let (field, rest) ← number? "invalid number at field start" text
  if field = 0 then wrong "field number is zero" text
  else
    let (byte, rest) ← byteOf rest
    if byte = some 0 then wrong "character offset is zero" text
    else
      let (rule, rest) := letters true false .plain rest
      let k : Key := ⟨field - 1, byte.getD 1 - 1, none, rule⟩
      match rest with
      | [] => .ok k
      | 0x2C :: rest =>
        let (field, rest) ← number? "invalid number after ','" rest
        if field = 0 then wrong "field number is zero" text
        else
          let (byte, rest) ← byteOf rest
          let (rule, rest) := letters false true k.rule rest
          if rest = [] then .ok { k with finish := some (field - 1, byte.getD 0), rule := rule }
          else wrong "stray character in field spec" text
      | _ => wrong "stray character in field spec" text

/-- A number of fields and bytes with letters, with the sign in front, as another way to write a
part of a key counts them. -/
def oldPart? (text : Bytes) : Option (Nat × Nat × Bytes) :=
  let digits := text.tail.takeWhile Collation.isDigit
  let rest := text.tail.drop digits.length
  if digits = [] then none
  else
    match rest with
    | 0x2E :: more =>
      let bytes := more.takeWhile Collation.isDigit
      if bytes = [] then none
      else some (Collation.count digits, Collation.count bytes, more.drop bytes.length)
    | _ => some (Collation.count digits, 0, rest)

/-- The arguments, with keys that are written with signs in the way of the others. -/
def modernized : List Bytes → List Bytes
  | [] => []
  | arg :: rest =>
    if arg = utf8 "--" then arg :: rest
    else
      match arg.head?, oldPart? arg with
      | some 0x2B, some (field, byte, after) =>
        if (letters true false .plain after).2 ≠ [] then arg :: modernized rest
        else
          let front := utf8 s!"-k{field + 1}.{byte + 1}" ++ after
          match rest with
          | next :: more =>
            match next.head?, oldPart? next with
            | some 0x2D, some (field, byte, after) =>
              let part := if byte = 0 then s!",{max field 1}" else s!",{field + 1}.{byte}"
              (front ++ utf8 part ++ after) :: modernized more
            | _, _ => front :: modernized (next :: more)
          | [] => [front]
      | _, _ => arg :: modernized rest

/-! ### Files -/

/-- Says that something is wrong with a file, and ends. -/
def die {α : Type} (what : String) (name : Bytes) (e : Errno) : Work α :=
  fail 2 (utf8 (what ++ ": ") ++ Quote.name name ++ utf8 (": " ++ e.libraryText))

/-- The lines of a file. -/
def linesIn (ending : UInt8) (name : Bytes) : Work (List Bytes) := do
  match ← openInput name with
  | .error e => die "open failed" name e
  | .ok fd =>
    let (bytes, s) ← (Source.ofOpen fd).rest
    closeInput name fd
    match s.failure with
    | some e => die (if e = .badDescriptor then "stat failed" else "read failed") name e
    | none => return (linesOf ending bytes).map (·.bytes)

/-- Says that the output is not taken, and ends. -/
def refused (size : Nat) (output : Option Bytes) (e : Errno) : Work Unit := do
  let what := if size ≤ roomSize then "fflush failed" else "write failed"
  say (utf8 (what ++ ": ") ++ Quote.name (output.getD (utf8 "standard output")) ++
    utf8 (": " ++ e.libraryText))
  if output.isNone then say refusal
  exit 2

/-- Writes the result to the output or to an open file. -/
def write (text : Bytes) (output : Option (Bytes × Nat)) : Work Unit := do
  let sent : Nat → Option Bytes → Work Unit := fun fd name => do
    if text ≠ [] then
      match ← call (.write fd text) with
      | .ok () => return ()
      | .error e => refused text.length name e
  match output with
  | none => sent 1 none
  | some (name, fd) =>
    let _ ← call (.change (.resize name 0))
    sent fd (some name)

/-- What was asked for. -/
structure Request where
  /-- The rule for all keys that have none. -/
  rule : Rule
  /-- The keys, last first. -/
  keys : List Key
  /-- What separates fields. -/
  separator : Option UInt8
  /-- Where the result goes. -/
  output : Option Bytes
  /-- The letter that asks whether the lines are in order. -/
  check : Option String

/-- The letters of the ways to compare, by their words. -/
def ways : List (String × UInt8) :=
  [("general-numeric", 0x67), ("human-numeric", 0x68), ("month", 0x4D), ("numeric", 0x6E),
   ("random", 0x52), ("version", 0x56)]

/-- A request with the question whether the lines are in order. -/
def Request.withCheck (r : Request) (letter : String) : Work Request := do
  if r.check.isSome ∧ r.check ≠ some letter then
    fail 2 (utf8 "options '-cC' are incompatible")
  return { r with check := some letter }

/-- A request with an option. -/
def Request.add (r : Request) (g : Given) : Work Request := do
  let value := g.value.getD []
  match g.key with
  | "k" =>
    match keyOf value with
    | .ok k => return { r with keys := k :: r.keys }
    | .error e => fail 2 e
  | "t" =>
    let separator ← match value with
      | [] => fail 2 (utf8 "empty tab")
      | [b] => pure b
      | [0x5C, 0x30] => pure 0
      | _ => fail 2 (utf8 "multi-character tab " ++ Quote.plain value)
    if r.separator.isSome ∧ r.separator ≠ some separator then
      fail 2 (utf8 "incompatible tabs")
    return { r with separator := some separator }
  | "o" =>
    if r.output.isSome ∧ r.output ≠ some value then
      fail 2 (utf8 "multiple output files specified")
    return { r with output := some value }
  | "c" => r.withCheck "c"
  | "check" =>
    match g.value with
    | none => r.withCheck "c"
    | some word =>
      let way ← Options.choice "--check" [["quiet", "silent"], ["diagnose-first"]] word
      r.withCheck (if way = "quiet" then "C" else "c")
  | "C" => r.withCheck "C"
  | "sort" =>
    let way ← Options.choice "--sort" (ways.map fun w => [w.1]) value
    return { r with rule := (r.rule.set? true true ((ways.lookup way).getD 0)).getD r.rule }
  | "S" =>
    let size := value.dropWhile Collation.isDigit
    if size.length = value.length ∨ 1 < size.length ∨
        !size.all (utf8 "bkKmMGTPEZYRQ%").contains then
      fail 2 (utf8 "invalid -S argument " ++ Quote.plain value)
    return r
  | "parallel" =>
    if value = [] ∨ !value.all Collation.isDigit then
      fail 2 (utf8 "invalid --parallel argument " ++ Quote.plain value)
    if Collation.count value = 0 then fail 2 (utf8 "number in parallel must be nonzero")
    return r
  | "batch-size" =>
    let complaint := utf8 "invalid --batch-size argument " ++ Quote.plain value
    if value = [] ∨ !value.all Collation.isDigit then fail 2 complaint
    if Collation.count value < 2 then
      say complaint
      fail 2 (utf8 "minimum --batch-size argument is '2'")
    return r
  | letter =>
    match utf8 letter with
    | [b] => return { r with rule := (r.rule.set? true true b).getD r.rule }
    | _ => return r

/-- The keys of a request, with the rule of all in those that have none. -/
def Request.allKeys (r : Request) : List Key :=
  let keys := r.keys.reverse.map fun k => if k.rule = .plain then { k with rule := r.rule } else k
  if keys = [] ∧ !r.rule.isPlain then [⟨0, 0, none, r.rule⟩] else keys

/-- The options of `sort`. -/
def switches : List Switch :=
  [.flag "b" "ignore-leading-blanks", .flag "c" "", ⟨"", "check", .optional⟩, .flag "C" "",
   .flag "d" "dictionary-order", .flag "f" "ignore-case", .flag "g" "general-numeric-sort",
   .flag "h" "human-numeric-sort", .flag "i" "ignore-nonprinting", .valued "k" "key",
   .flag "m" "merge", .flag "M" "month-sort", .flag "n" "numeric-sort", .valued "o" "output",
   .flag "r" "reverse", .flag "R" "random-sort", .valued "" "sort", .flag "s" "stable",
   .valued "S" "buffer-size", .valued "t" "field-separator", .valued "T" "temporary-directory",
   .flag "u" "unique", .flag "V" "version-sort", .flag "z" "zero-terminated",
   .valued "" "parallel", .valued "" "batch-size", .valued "" "compress-program",
   .valued "" "files0-from", .valued "" "random-source", .flag "" "debug", .valued "y" ""]

end Sorting

open Sorting

/-- Puts lines in order, or tells whether they are. -/
def sort (args : List Bytes) : Work Unit := do
  let f ← Options.read switches true 2 (modernized args)
  let r ← f.given.foldlM Request.add ⟨.plain, [], none, none, none⟩
  let keys := r.allKeys
  match keys.find? fun k => k.rule.isContradictory with
  | some k => fail 2 (utf8 ("options '-" ++ k.rule.letters ++ "' are incompatible"))
  | none => pure ()
  let m : Manner := ⟨keys, r.separator, r.rule.reverse, f.has "u", f.has "s"⟩
  let ending : UInt8 := if f.has "z" then 0 else 0x0A
  let names ← match f.value? "files0-from" with
    | none => pure (inputsOf f.operands)
    | some source =>
      match f.operands with
      | extra :: _ => namedTwice 2 extra
      | [] =>
        match ← contentOf source with
        | .error e => die "open failed" source e
        | .ok [] => fail 2 (utf8 "no input from " ++ Quote.shell source)
        | .ok content =>
          (namesIn source content).mapM fun item => match item with
            | .ok name => pure name
            | .error what => fail 2 what
  match r.check with
  | some letter =>
    match names with
    | _ :: extra :: _ =>
      fail 2 (utf8 "extra operand " ++ Quote.plain extra ++
        utf8 (" not allowed with -" ++ letter))
    | _ => pure ()
    if r.output.isSome then fail 2 (utf8 ("options '-" ++ letter ++ "o' are incompatible"))
    let name := names.headD []
    match m.disorder? 1 (← linesIn ending name) with
    | none => return ()
    | some (n, line) =>
      if letter = "c" then
        say (Quote.name name ++ utf8 s!":{n}: disorder: " ++ line)
      exit 1
  | none =>
    for name in names do
      if !isInput name then
        match ← call (.facts name true) with
        | .ok _ => pure ()
        | .error e => die "cannot read" name e
    let output ← match r.output with
      | none => pure none
      | some name =>
        match ← call (.openFile name { Opening.writing with empties := false }) with
        | .ok fd => pure (some (name, fd))
        | .error e => die "open failed" name e
    let lists ← names.mapM (linesIn ending)
    let lines := if f.has "m" then m.merged lists else m.sorted lists.flatten
    let lines := if m.unique then m.distinct lines else lines
    write (lines.flatMap (· ++ [ending])) output

end CommandShell.Tool
