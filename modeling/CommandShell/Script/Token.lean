import CommandShell.Script.Syntax

/-!
# Reading the text of a script

A script is read byte by byte. The text that is there may end in the middle of a command; if more of
it may follow, reading stops there and starts again when there is more. Texts can be put in front of
what is left to be read, which is how an abbreviation is replaced by what it stands for.
-/

namespace CommandShell.Script

/-- The words that have a meaning of their own where a command begins. -/
inductive Keyword where
  | bang | caseOf | doing | done | elif | otherwise | esac | fi | forEach | ifSo | inWords | thenDo
  | untilTrue | whileTrue | opening | closing
deriving DecidableEq

namespace Keyword

/-- All keywords. -/
def all : List Keyword :=
  [bang, caseOf, doing, done, elif, otherwise, esac, fi, forEach, ifSo, inWords, thenDo, untilTrue,
   whileTrue, opening, closing]

/-- How a keyword is written. -/
def text : Keyword → String
  | bang => "!"
  | caseOf => "case"
  | doing => "do"
  | done => "done"
  | elif => "elif"
  | otherwise => "else"
  | esac => "esac"
  | fi => "fi"
  | forEach => "for"
  | ifSo => "if"
  | inWords => "in"
  | thenDo => "then"
  | untilTrue => "until"
  | whileTrue => "while"
  | opening => "\x7b"
  | closing => "\x7d"

/-- The keyword that bytes spell. -/
def ofBytes? (bytes : Bytes) : Option Keyword :=
  all.find? fun k => utf8 k.text = bytes

end Keyword

/-- A token of the language. -/
inductive Token where
  | endOfFile | newline | semicolon | background | both | either | pipe | leftParen | rightParen
  | endOfArm | redirection | word
  | keyword (k : Keyword)
deriving DecidableEq

namespace Token

/-- What a token is called in a complaint. -/
def shown : Token → String
  | endOfFile => "end of file"
  | newline => "newline"
  | semicolon => "\";\""
  | background => "\"&\""
  | both => "\"&&\""
  | either => "\"||\""
  | pipe => "\"|\""
  | leftParen => "\"(\""
  | rightParen => "\")\""
  | endOfArm => "\";;\""
  | redirection => "redirection"
  | word => "word"
  | keyword k => "\"" ++ k.text ++ "\""

/-- Whether a list of commands ends in front of a token. -/
def endsList : Token → Bool
  | endOfFile | rightParen | endOfArm => true
  | keyword k =>
    [Keyword.doing, .done, .elif, .otherwise, .esac, .fi, .thenDo, .closing].contains k
  | _ => false

end Token

/-- A text in front of what is left to be read. -/
structure Pushed where
  /-- What is left of it. -/
  text : Bytes
  /-- The abbreviation that it stands for, if it does. -/
  name : Option Bytes
  /-- Whether the word that follows may be an abbreviation as well. -/
  leadsOn : Bool

/-- A document that is still to be read. -/
structure Awaited where
  /-- The number under which it is kept. -/
  number : Nat
  /-- The line after its end. -/
  delimiter : Bytes
  /-- Whether tabs in front of its lines are dropped. -/
  stripsTabs : Bool
  /-- Whether places in it are filled. -/
  expands : Bool

/-- How far a script has been read. -/
structure Reader where
  /-- Texts in front of the rest, the next one first. -/
  pushed : List Pushed
  /-- The rest, as far as it is there. -/
  text : Bytes
  /-- Whether nothing follows. -/
  complete : Bool
  /-- The number of the line. -/
  line : Nat
  /-- The abbreviations and what they stand for. -/
  aliases : List (Bytes × Bytes)
  /-- The last token. -/
  last : Token
  /-- Whether it is to be taken once more. -/
  again : Bool
  /-- The word, if it is one. -/
  word : Word
  /-- Whether some of the word is quoted. -/
  quoted : Bool
  /-- The redirection, if it is one, waiting for its word. -/
  redirection : Word → Redirection
  /-- The document of the redirection, if it asks for one. -/
  document : Option Awaited
  /-- Whether newlines are skipped in front of the next token. -/
  skipsNewlines : Bool
  /-- Whether the next word may be a keyword. -/
  seesKeywords : Bool
  /-- Whether the next word may be an abbreviation. -/
  seesAliases : Bool
  /-- Whether the next word says where a document ends. -/
  seesDelimiter : Bool
  /-- The documents that begin after the line. -/
  awaited : List Awaited
  /-- The documents that have been read. -/
  documents : Array Word

/-- Why reading stops. -/
inductive Halt where
  /-- More of the script is needed. -/
  | more
  /-- The script makes no sense at a line. -/
  | senseless (line : Nat) (complaint : String)

/-- Reading a part of a script. -/
abbrev Parser (α : Type) : Type :=
  StateT Reader (Except Halt) α

namespace Parser

/-- The script makes no sense. -/
def complain {α : Type} (complaint : String) : Parser α := fun r =>
  .error (.senseless r.line complaint)

/-- The last token should not be here. -/
def unexpected {α : Type} : Parser α := fun r =>
  .error (.senseless r.line (r.last.shown ++ " unexpected"))

/-- Another token should be here. -/
def expected {α : Type} (t : Token) : Parser α := fun r =>
  .error (.senseless r.line (r.last.shown ++ " unexpected (expecting " ++ t.shown ++ ")"))

/-- Whether a byte is a blank or a tab. -/
def isBlank (b : UInt8) : Bool :=
  b = 0x20 || b = 0x09

/-- The next byte, from the texts in front of the rest as long as there are any. -/
def nextIn (r : Reader) (rest : List Pushed) : Except Halt (Option UInt8 × Reader) :=
  match rest with
  | [] =>
    let r := { r with pushed := [] }
    match r.text with
    | [] => if r.complete then .ok (none, r) else .error .more
    | b :: text => .ok (some b, { r with text := text })
  | p :: others =>
    match p.text with
    | [] => nextIn { r with seesAliases := r.seesAliases || p.leadsOn } others
    | b :: text => .ok (some b, { r with pushed := { p with text := text } :: others })

/-- The next byte, or none at the end. -/
def next : Parser (Option UInt8) := fun r =>
  nextIn r r.pushed

/-- Gives a byte back, so that it is the next one again. -/
def giveBack (c : Option UInt8) : Parser Unit := fun r =>
  .ok ((), match c, r.pushed with
    | none, _ => r
    | some b, [] => { r with text := b :: r.text }
    | some b, p :: others => { r with pushed := { p with text := b :: p.text } :: others })

/-- Counts a line. -/
def countLine : Parser Unit :=
  modify fun r => { r with line := r.line + 1 }

/-- More steps than any part of a script takes to read. -/
def plenty : Nat := 0x10000000

/-- The next byte after all backslashes that stand in front of newlines. -/
def nextJoined : Nat → Parser (Option UInt8)
  | 0 => return none
  | fuel + 1 => do
    let c ← next
    if c ≠ some 0x5C then return c
    let d ← next
    if d = some 0x0A then
      countLine
      nextJoined fuel
    else
      giveBack d
      return c

/-- Reads something from a text of its own. -/
def within {α : Type} (text : Bytes) (p : Parser α) : Parser α := do
  let r ← get
  set { r with pushed := [], text := text, complete := true, line := 1 }
  let a ← p
  modify fun s =>
    { s with pushed := r.pushed, text := r.text, complete := r.complete, line := r.line }
  return a

end Parser

namespace Word

/-- The bytes of a word in which nothing is quoted and nothing is to be filled in. -/
def plain? (w : Word) : Option Bytes :=
  w.mapM fun
    | .byte b false => some b
    | _ => none

/-- The bytes of a word without its quotation marks. -/
def unquoted (w : Word) : Bytes :=
  w.filterMap fun
    | .byte b _ => some b
    | _ => none

/-- Whether a byte may begin a name. -/
def startsName (b : UInt8) : Bool :=
  (0x41 ≤ b && b ≤ 0x5A) || (0x61 ≤ b && b ≤ 0x7A) || b = 0x5F

/-- Whether a byte is a digit. -/
def isDigit (b : UInt8) : Bool :=
  0x30 ≤ b && b ≤ 0x39

/-- Whether a byte may stand in a name. -/
def continuesName (b : UInt8) : Bool :=
  startsName b || isDigit b

/-- Whether bytes are a name. -/
def isName (bytes : Bytes) : Bool :=
  match bytes with
  | [] => false
  | b :: rest => startsName b && rest.all continuesName

/-- The name at the beginning of bytes. -/
def nameOf (bytes : Bytes) : Bytes :=
  match bytes with
  | [] => []
  | b :: rest => if startsName b then b :: rest.takeWhile continuesName else []

/-- Whether a word sets a variable. -/
def isAssignment (w : Word) : Bool :=
  let front := w.takeWhile fun
    | .byte b false => continuesName b
    | _ => false
  let name := unquoted front
  match w.drop front.length with
  | .byte 0x3D false :: _ => isName name
  | _ => false

end Word

end CommandShell.Script
