import CommandShell.Files.Mode
import CommandShell.Text.Calendar
import CommandShell.Text.RegexSyntax
import CommandShell.Tool.Number

/-!
# Expressions about files

A search for files is described by an expression: checks and actions, put together by operators. The
words of an expression are first taken for symbols, each with its arguments; between two symbols
without an operator there is one all the same. The symbols are then read as an expression.
-/

namespace CommandShell.Tool.Traversal

open Text

/-- How a number is compared with a given one. -/
structure Comparison where
  /-- The order that the number must have to the given one. -/
  order : Ordering
  /-- The given number. -/
  number : Nat

/-- Whether a number is as it should be. -/
def Comparison.admits (c : Comparison) (n : Nat) : Bool :=
  compare n c.number = c.order

/-- Which bits of the permissions must be set. -/
inductive Bits where
  | exactly | all | any
deriving DecidableEq

/-- Which text of an entry is described by a pattern. -/
inductive Aspect where
  /-- Its name. -/
  | name
  /-- Its path. -/
  | path
  /-- Where it leads, if it is a link. -/
  | content
deriving DecidableEq

/-- Which times are as they should be. -/
inductive Span where
  /-- Those after a time. -/
  | after (time : Int)
  /-- Those before a time. -/
  | before (time : Int)
  /-- Those after a time, up to so much after it. -/
  | within (time width : Int)

/-- Whether a time is as it should be. -/
def Span.admits (s : Span) (t : Int) : Bool :=
  match s with
  | after time => decide (time < t)
  | before time => decide (t < time)
  | within time width => decide (time < t ∧ t ≤ time + width)

/-- Something that is true of an entry or not. -/
inductive Check where
  /-- The same of all entries. -/
  | always (is : Bool)
  /-- A text of the entry is described by a pattern. -/
  | described (aspect : Aspect) (pattern : Bytes) (folds : Bool)
  /-- The path matches an expression. -/
  | matches (r : Regex) (folds : Bool)
  /-- It is of one of some kinds, by their letters; links are looked at in the other way. -/
  | ofKind (letters : Bytes) (otherwise : Bool)
  /-- It is a file without content or a directory without entries. -/
  | empty
  /-- Its size in units. -/
  | size (unit : Nat) (c : Comparison)
  /-- Its permissions. -/
  | mode (bits : Bits) (value : Nat)
  /-- It may be used in a way, by the bit of its permissions. -/
  | permits (bit : Nat)
  /-- When it was last changed, or last looked at. -/
  | time (accessed : Bool) (s : Span)
  /-- The number by which it is known. -/
  | number (c : Comparison)
  /-- The number of its names. -/
  | names (c : Comparison)
  /-- It is at a certain place. -/
  | same (location : Path)

/-- Where something is written. -/
inductive Goal where
  /-- To the output. -/
  | output
  /-- To an open file. -/
  | file (fd : Nat)

/-- A piece of a format. -/
inductive Piece where
  /-- A text as it is. -/
  | text (bytes : Bytes)
  /-- A fact about the entry, by its letter, with flags, least width and greatest length. -/
  | fact (letter : UInt8) (flags : Bytes) (width : Nat) (most : Option Nat)
  /-- A part of a time of the entry, by its letter: when it was last looked at, or last changed. -/
  | time (accessed : Bool) (letter : UInt8) (flags : Bytes) (width : Nat) (most : Option Nat)
  /-- Nothing more is written. -/
  | stop

/-- A command that is run. -/
structure Command where
  /-- Its words. -/
  words : List Bytes
  /-- It is run in the directory of the entry. -/
  nearby : Bool

/-- Something that is done with an entry. -/
inductive Action where
  /-- Its path is written. -/
  | print (goal : Goal) (ending : UInt8)
  /-- It is written in a format. -/
  | format (goal : Goal) (pieces : List Piece)
  /-- It is written with what is known of it. -/
  | list (goal : Goal)
  /-- It is removed. -/
  | delete
  /-- What is below it is left out. -/
  | prune
  /-- The search ends. -/
  | quit
  /-- A command is run for it, if that is agreed to. -/
  | run (c : Command) (asks : Bool)
  /-- It becomes an argument of a command of a number that is run for several. -/
  | gather (c : Command) (number : Nat)

/-- An expression. -/
inductive Expression where
  | check (c : Check)
  | act (a : Action)
  | not (e : Expression)
  | and (a b : Expression)
  | or (a b : Expression)
  /-- The first does not matter. -/
  | both (a b : Expression)

/-- An operator between two expressions. -/
inductive Operator where
  | both | or | and
deriving DecidableEq

/-- How closely an operator binds. -/
def Operator.level : Operator → Nat
  | both => 1
  | or => 2
  | and => 3

/-- Puts two expressions together. -/
def Operator.join : Operator → Expression → Expression → Expression
  | both => .both
  | or => .or
  | and => .and

/-- A symbol of an expression. Brackets may be there that nobody has written. -/
inductive Symbol where
  | primary (e : Expression)
  | not (name : Bytes)
  | between (o : Operator) (name : Bytes)
  | opening (written : Bool)
  | closing (written : Bool)

/-! ### Reading symbols -/

/-- The start of most complaints. -/
def invalid (text : String) : Except Bytes (Expression × List Symbol) :=
  .error (utf8 ("invalid expression" ++ text))

/-- How closely the negation binds. -/
def negationLevel : Nat := 4

/-- Reads an expression, or goes on with one that is read, as long as the operators bind more
closely than a level. The name of the operator in front is known. -/
def read : Nat → Nat → Option Bytes → Option Expression → List Symbol →
    Except Bytes (Expression × List Symbol)
  | 0, _, _, _, _ => invalid ""
  | fuel + 1, level, before, some left, symbols =>
    match symbols with
    | .between o name :: rest =>
      if level < o.level then do
        let (right, rest) ← read fuel o.level (some name) none rest
        read fuel level before (some (o.join left right)) rest
      else .ok (left, symbols)
    | _ => .ok (left, symbols)
  | fuel + 1, level, before, none, symbols =>
    match symbols with
    | [] => invalid ""
    | .between _ name :: _ =>
      .error (utf8 "invalid expression; you have used a binary operator '" ++ name ++
        utf8 "' with nothing before it.")
    | .closing written :: _ =>
      match written, before with
      | true, some name =>
        .error (utf8 "expected an expression between '" ++ name ++ utf8 "' and ')'")
      | false, some name => .error (utf8 "expected an expression after '" ++ name ++ utf8 "'")
      | _, none => invalid "; you have too many ')'"
    | .primary e :: rest => read fuel level before (some e) rest
    | .not name :: rest => do
      let (e, rest) ← read fuel negationLevel (some name) none rest
      read fuel level before (some (.not e)) rest
    | .opening _ :: rest =>
      match rest with
      | [] => unclosed
      | .closing false :: _ => unclosed
      | .closing true :: _ => invalid "; empty parentheses are not allowed."
      | _ => do
        let (e, rest) ← read fuel 0 none none rest
        match rest with
        | .closing _ :: rest => read fuel level before (some e) rest
        | _ => invalid "; I was expecting to find a ')' somewhere but did not see one."
where
  /-- A bracket is opened at the end. -/
  unclosed : Except Bytes (Expression × List Symbol) :=
    invalid ("; expected to find a ')' but didn't see one. " ++
      "Perhaps you need an extra predicate after '('")

/-- Adds a symbol behind others, with an operator between if there is none; the last symbol is at
the front. -/
def add (symbols : List Symbol) (s : Symbol) : List Symbol :=
  let starts : Bool := match s with
    | .primary _ => true
    | .not _ => true
    | .opening _ => true
    | _ => false
  let ends : Bool := match symbols with
    | .primary _ :: _ => true
    | .closing _ :: _ => true
    | _ => false
  if starts ∧ ends then s :: .between .and (utf8 "-a") :: symbols else s :: symbols

/-- Whether a symbol does something that makes it unnecessary to write the paths. -/
def Symbol.isActive : Symbol → Bool
  | .primary (.act .prune) => false
  | .primary (.act .quit) => false
  | .primary (.act _) => true
  | _ => false

/-- The expression of symbols, the last of them at the front. Paths are written if it does
nothing. -/
def ofSymbols (symbols : List Symbol) : Except Bytes Expression := do
  let print : Symbol := .primary (.act (.print .output 0x0A))
  let all :=
    if symbols = [] then [print]
    else if symbols.any Symbol.isActive then symbols.reverse
    else (add (add (symbols ++ [.opening false]) (.closing false)) print).reverse
  let (e, rest) ← read (3 * all.length + 3) 0 none none all
  match rest with
  | [] => .ok e
  | .closing _ :: _ => .error (utf8 "you have too many ')'")
  | _ => .error (utf8 "invalid expression")

/-! ### Arguments of symbols -/

/-- Takes the sign from a number: more than it with a plus, less with a dash. -/
def signed (text : Bytes) : Ordering × Bytes :=
  match text with
  | 0x2B :: rest => (.gt, rest)
  | 0x2D :: rest => (.lt, rest)
  | _ => (.eq, text)

/-- The comparison with a number that may have a sign. -/
def comparison? (text : Bytes) : Option Comparison :=
  let (order, digits) := signed text
  if digits ≠ [] ∧ digits.all Amount.isDigit then some ⟨order, Amount.count digits⟩ else none

/-- The number of billionths in a decimal number of units. -/
def billionths? (text : Bytes) : Option Int :=
  let (negative, text) := match text with
    | 0x2D :: rest => (true, rest)
    | _ => (false, text)
  let whole := text.takeWhile Amount.isDigit
  let (dot, part) := match text.drop whole.length with
    | 0x2E :: rest => (true, rest)
    | rest => (rest ≠ [], rest)
  if (whole = [] ∧ part = []) ∨ !part.all Amount.isDigit ∨ (!dot ∧ part ≠ []) then none
  else
    let digits := (part ++ List.replicate 9 (0x30 : UInt8)).take 9
    let n : Int := Amount.count whole * Calendar.billion + Amount.count digits
    some (if negative then -n else n)

/-- The span of times that a number of days or minutes before a time stands for. A day that is
counted begins a day earlier, unless it is the least of those that are meant, which begins a second
earlier. -/
def spanOf? (days : Bool) (origin : Int) (text : Bytes) : Option Span :=
  let (order, digits) := signed text
  let unit : Int := if days then 86400 else 60
  let start := if !days then origin
    else origin - (if order = .lt then 1 else 86400) * Calendar.billion
  (billionths? digits).map fun n =>
    let time := start - n * unit
    match order with
    | .lt => .after time
    | .gt => .before time
    | .eq => .within time (unit * Calendar.billion)

/-- The check of a size. -/
def sizeCheck (text : Bytes) : Except Bytes Check :=
  match text.getLast? with
  | none => .error (utf8 "invalid null argument to -size")
  | some b =>
    let unit : Option (Nat × Bytes) := match b with
      | 0x62 => some (512, text.dropLast)
      | 0x63 => some (1, text.dropLast)
      | 0x77 => some (2, text.dropLast)
      | 0x6B => some (1024, text.dropLast)
      | 0x4D => some (0x100000, text.dropLast)
      | 0x47 => some (0x40000000, text.dropLast)
      | _ => if Amount.isDigit b then some (512, text) else none
    match unit with
    | none => .error (utf8 "invalid -size type " ++ [0x60, b] ++ utf8 "'")
    | some (unit, digits) =>
      match comparison? digits with
      | some c => .ok (.size unit c)
      | none => .error (utf8 "Invalid argument " ++ 0x60 :: text ++ utf8 "' to -size")

/-- The check of permissions. -/
def modeCheck (text : Bytes) : Except Bytes Check :=
  let (bits, body) : Bits × Bytes := match text with
    | 0x2D :: rest => (.all, rest)
    | 0x2F :: rest => (.any, rest)
    | _ => (.exactly, text)
  match ModeClause.ofText? body with
  | none => .error (utf8 "invalid mode " ++ Quote.plain text)
  | some clauses => .ok (.mode bits (ModeClause.applyAll 0 false 0 clauses))

/-- The check of the kinds of entries. -/
def kindCheck (name : Bytes) (otherwise : Bool) (text : Bytes) : Except Bytes Check :=
  go (text.length + 1) text []
where
  /-- Reads letters with commas between them. -/
  go : Nat → Bytes → Bytes → Except Bytes Check
    | 0, _, done => .ok (.ofKind done otherwise)
    | fuel + 1, text, done =>
      match text with
      | [] => .error (utf8 "Arguments to " ++ name ++ utf8 " should contain at least one letter")
      | b :: rest =>
        if b = 0x44 then
          .error (name ++ utf8 (" D is not supported because Solaris doors are not supported on " ++
            "the platform find was compiled on."))
        else if !(utf8 "bcdflps").contains b then
          .error (utf8 "Unknown argument to " ++ name ++ utf8 ": " ++ [b])
        else if done.contains b then
          .error (utf8 "Duplicate file type '" ++ b :: utf8 "' in the argument list to " ++ name ++
            utf8 ".")
        else
          match rest with
          | [] => .ok (.ofKind (b :: done) otherwise)
          | [0x2C] =>
            .error (utf8 "Last file type in list argument to " ++ name ++
              utf8 " is missing, i.e., list is ending on: ','")
          | 0x2C :: more => go fuel more (b :: done)
          | _ =>
            .error (utf8 "Must separate multiple arguments to " ++ name ++ utf8 " using: ','")

/-- The ways in which expressions for paths are written. -/
inductive Writing where
  | usual | basic | extended
deriving DecidableEq

/-- The names of these ways. -/
def writings : List (String × Writing) :=
  [("findutils-default", .usual), ("ed", .basic), ("emacs", .usual), ("gnu-awk", .extended),
   ("grep", .basic), ("posix-awk", .extended), ("awk", .extended), ("posix-basic", .basic),
   ("posix-egrep", .extended), ("egrep", .extended), ("posix-extended", .extended),
   ("posix-minimal-basic", .basic), ("sed", .basic)]

/-- An expression of the usual way in the extended one: the marks of groups and choices are those
with a backslash in front. -/
def extendedOf (bracket : Bool) : Bytes → Bytes
  | [] => []
  | 0x5B :: 0x5E :: 0x5D :: rest =>
    if bracket then 0x5B :: 0x5E :: 0x5D :: extendedOf false rest
    else 0x5B :: 0x5E :: 0x5D :: extendedOf true rest
  | 0x5B :: 0x5D :: rest => 0x5B :: 0x5D :: extendedOf (!bracket) rest
  | 0x5C :: b :: rest =>
    if bracket then 0x5C :: b :: extendedOf bracket rest
    else if (utf8 "()|").contains b then b :: extendedOf bracket rest
    else 0x5C :: b :: extendedOf bracket rest
  | b :: rest =>
    if bracket then b :: extendedOf (b ≠ 0x5D) rest
    else if (utf8 "()|\x7b\x7d").contains b then 0x5C :: b :: extendedOf bracket rest
    else b :: extendedOf (b = 0x5B) rest

/-- The check that the path matches an expression. -/
def regexCheck (s : Writing) (folds : Bool) (text : Bytes) : Except Bytes Check :=
  let body := if s = .usual then extendedOf false text else text
  match Regex.parse ⟨s ≠ .basic, true, false, false⟩ body with
  | .ok (r, _) => .ok (.matches r folds)
  | .error e =>
    let reason := if e = .openBracket then Regex.Fault.incomplete.text else e.text
    .error (utf8 "failed to compile regular expression " ++ Quote.plain text ++
      utf8 (": " ++ reason))

/-- The words of a command up to its end, and whether entries are gathered for it. What is left
begins with the end of the command, or is empty. -/
def commandWords : Bool → List Bytes → List Bytes × Bool × List Bytes
  | _, [] => ([], false, [])
  | braces, w :: rest =>
    if w = utf8 ";" then ([], false, w :: rest)
    else if w = utf8 "+" ∧ braces then ([], true, w :: rest)
    else
      let (words, gathers, left) := commandWords (hasBraces w) rest
      (w :: words, gathers, left)
where
  /-- Whether the mark for an entry is in a word. -/
  hasBraces : Bytes → Bool
    | 0x7B :: 0x7D :: _ => true
    | _ :: rest => hasBraces rest
    | [] => false

/-- What a backslash and what follows it stand for in a format, and the rest. -/
def formatEscape (rest : Bytes) : Option (Piece × Bytes) :=
  match rest with
  | [] => none
  | b :: more =>
    let byte := fun (x : UInt8) => some (Piece.text [x], more)
    match b with
    | 0x61 => byte 0x07
    | 0x62 => byte 0x08
    | 0x63 => some (.stop, more)
    | 0x66 => byte 0x0C
    | 0x6E => byte 0x0A
    | 0x72 => byte 0x0D
    | 0x74 => byte 0x09
    | 0x76 => byte 0x0B
    | 0x5C => byte 0x5C
    | _ =>
      let digits := (rest.take 3).takeWhile fun x => 0x30 ≤ x && x ≤ 0x37
      if digits = [] then none
      else
        let n := digits.foldl (fun n x => n * 8 + (x.toNat - 0x30)) 0
        some (.text [n.toUInt8], rest.drop digits.length)

/-- The letters of facts that can be written. -/
def factLetters : Bytes := utf8 "abcdDfFgGhHiklmMnpPsStuUyYZ"

/-- The pieces of a format, and what is to be said about it. -/
def pieces : Nat → Bytes → Except Bytes (List Piece × List Bytes)
  | 0, _ => .ok ([], [])
  | fuel + 1, text =>
    match text with
    | [] => .ok ([], [])
    | 0x5C :: rest =>
      match formatEscape rest with
      | some (piece, rest) => (pieces fuel rest).map fun r => (piece :: r.1, r.2)
      | none =>
        match rest with
        | [] => .ok ([.text [0x5C]], [utf8 "escape \x60\\' followed by nothing at all"])
        | b :: rest =>
          (pieces fuel rest).map fun r =>
            (.text [0x5C, b] :: r.1,
              (utf8 "unrecognized escape \x60\\" ++ b :: utf8 "'") :: r.2)
    | 0x25 :: rest =>
      let flags := rest.takeWhile (utf8 "-+ #0").contains
      let after := rest.drop flags.length
      let width := after.takeWhile Amount.isDigit
      let after := after.drop width.length
      let (most, after) := match after with
        | 0x2E :: more =>
          let digits := more.takeWhile Amount.isDigit
          (some (Amount.count digits), more.drop digits.length)
        | _ => (none, after)
      match after with
      | [] => .error (utf8 "error: % at end of format string")
      | 0x25 :: more => (pieces fuel more).map fun r => (.text [0x25] :: r.1, r.2)
      | b :: more =>
        let isTime := (utf8 "ABCT").contains b
        (pieces fuel (if isTime then more.drop 1 else more)).map fun r =>
          let width := Amount.count width
          if factLetters.contains b then (.fact b flags width most :: r.1, r.2)
          else if isTime then
            match more with
            | [] =>
              (.text (0x25 :: rest) :: r.1,
                (utf8 "format directive `%" ++ b :: utf8 ("' should be followed by another " ++
                  "character")) :: r.2)
            | letter :: _ => (.time (b = 0x41) letter flags width most :: r.1, r.2)
          else
            (.text (0x25 :: rest.take (rest.length - more.length)) :: r.1,
              (utf8 "unrecognized format directive \x60%" ++ b :: utf8 "'") :: r.2)
    | _ =>
      let plain := text.takeWhile fun b => b ≠ 0x25 && b ≠ 0x5C
      (pieces fuel (text.drop plain.length)).map fun r => (.text plain :: r.1, r.2)

end CommandShell.Tool.Traversal
