import CommandShell.Script.Scan

/-!
# Reading commands

The grammar of the language: lists of commands are made of pipelines, these of commands, and these
of words and of lists between keywords. A list is read when its commands are complete, with the
documents that its lines ask for.
-/

namespace CommandShell.Script

namespace Parser

/-! ### Tokens -/

/-- Sets what the next token may be. -/
def allow (newlines keywords aliases : Bool) : Parser Unit :=
  modify fun r =>
    { r with skipsNewlines := newlines, seesKeywords := keywords, seesAliases := aliases }

/-- Says which token was read. -/
def is (t : Token) : Parser Token := do
  modify fun r => { r with last := t }
  return t

/-- One of two tokens, depending on whether a byte follows. -/
def isOrDouble (b : UInt8) (double single : Token) : Parser Token := do
  let c ← nextJoined plenty
  if c = some b then is double
  else
    giveBack c
    is single

/-- Passes over the rest of a comment. -/
def comment : Nat → Parser Unit
  | 0 => return ()
  | fuel + 1 => do
    let c ← next
    if c = some 0x0A ∨ c = none then giveBack c else comment fuel

/-- How the redirection is made that begins with a byte, once its word is known. -/
def redirection (b : UInt8) (fd : Option Nat) : Parser Unit := do
  let set_ : (Word → Redirection) → Parser Unit := fun make =>
    modify fun r => { r with redirection := make, document := none }
  let duplication : Nat → Word → Redirection := fun fd word =>
    match Word.plain? word with
    | some [0x2D] => .copy fd .nothing
    | some [d] => if Word.isDigit d then .copy fd (.number (d.toNat - 48)) else .copyOf fd word
    | _ => .copyOf fd word
  let c ← nextJoined plenty
  if b = 0x3E then
    let fd := fd.getD 1
    match c with
    | some 0x3E => set_ (.file fd .append)
    | some 0x7C => set_ (.file fd .clobber)
    | some 0x26 => set_ (duplication fd)
    | _ =>
      giveBack c
      set_ (.file fd .output)
  else
    let fd := fd.getD 0
    match c with
    | some 0x3C =>
      let d ← nextJoined plenty
      if d ≠ some 0x2D then giveBack d
      modify fun r => { r with
        redirection := fun _ => .document fd r.documents.size
        document := some ⟨r.documents.size, [], d = some 0x2D, true⟩ }
    | some 0x26 => set_ (duplication fd)
    | some 0x3E => set_ (.file fd .both)
    | _ =>
      giveBack c
      set_ (.file fd .input)

variable (list : Bool → Parser Tree)

/-- Reads a token without asking whether it is a keyword or an abbreviation. -/
def rawToken : Nat → Parser Token
  | 0 => is .endOfFile
  | fuel + 1 => do
    let r ← get
    if r.again then
      set { r with again := false }
      return r.last
    let c ← nextJoined plenty
    match c with
    | none => is .endOfFile
    | some b =>
      if isBlank b then rawToken fuel
      else
        match b with
        | 0x23 =>
          comment plenty
          rawToken fuel
        | 0x0A =>
          countLine
          is .newline
        | 0x26 => isOrDouble b .both .background
        | 0x7C => isOrDouble b .either .pipe
        | 0x3B => isOrDouble b .endOfArm .semicolon
        | 0x28 => is .leftParen
        | 0x29 => is .rightParen
        | _ =>
          let (s, c) ←
            scan (list true) (documents (list true)) none plenty false (some b) (.start .bare)
          checkEnd false s
          let word := s.pieces.reverse
          let fd : Option (Option Nat) := if s.quoted then none else
            match word with
            | [] => some none
            | [.byte d false] => if Word.isDigit d then some (some (d.toNat - 48)) else none
            | _ => none
          match c, fd with
          | some x, some fd =>
            if x = 0x3E ∨ x = 0x3C then
              redirection x fd
              is .redirection
            else
              giveBack c
              modify fun r => { r with word := word, quoted := s.quoted }
              is .word
          | _, _ =>
            giveBack c
            modify fun r => { r with word := word, quoted := s.quoted }
            is .word

/-- Passes over newlines; documents are read after each. -/
def afterNewlines : Nat → Token → Parser Token
  | 0, t => return t
  | fuel + 1, t => do
    if t = .newline then
      documents (list true)
      modify fun r => { r with seesKeywords := false, seesAliases := false, seesDelimiter := false }
      afterNewlines fuel (← rawToken list plenty)
    else return t

/-- The keyword that a word is, if it is one. -/
def keyword? (word : Word) : Option Keyword :=
  (Word.plain? word).bind Keyword.ofBytes?

/-- What a word is an abbreviation for, if it is one and does not stand in its own text. -/
def alias? (r : Reader) : Option (Bytes × Bytes) :=
  match Word.plain? r.word with
  | none => none
  | some name =>
    if r.pushed.any fun p => p.name = some name then none
    else (r.aliases.lookup name).map fun text => (name, text)

/-- Reads a token. -/
def tokenOf : Nat → Bool → Bool → Bool → Parser Token
  | 0, _, _, _ => is .endOfFile
  | fuel + 1, newlines, keywords, aliases => do
    let t ← rawToken list plenty
    let t ← if newlines then afterNewlines list plenty t else pure t
    let r ← get
    let keywords := keywords || r.seesKeywords
    let aliases := aliases || r.seesAliases
    let newlines := newlines || r.skipsNewlines
    allow false false false
    modify fun r => { r with seesDelimiter := false }
    if t ≠ .word ∨ r.quoted then return t
    match if keywords then keyword? r.word else none with
    | some k => is (.keyword k)
    | none =>
      match if aliases then alias? r else none with
      | some (name, text) =>
        if text ≠ [] then
          let leadsOn := (text.getLast?.map isBlank).getD false
          modify fun r => { r with pushed := ⟨text, some name, leadsOn⟩ :: r.pushed }
        tokenOf fuel newlines keywords aliases
      | none => return t

/-- Reads a token of the kinds that are allowed. -/
def token : Parser Token := do
  let r ← get
  tokenOf list plenty r.skipsNewlines r.seesKeywords r.seesAliases

/-- Gives the last token back. -/
def giveBackToken : Parser Unit :=
  modify fun r => { r with again := true }

/-! ### Commands -/

/-- Reads the word of a redirection. -/
def redirectionWord : Parser Redirection := do
  let r ← get
  modify fun s => { s with seesDelimiter := r.document.isSome }
  let t ← token list
  if t ≠ .word then unexpected
  let s ← get
  match r.document with
  | none => return r.redirection s.word
  | some a =>
    let a := { a with
      number := s.documents.size, delimiter := Word.unquoted s.word, expands := !s.quoted }
    modify fun s =>
      { s with awaited := s.awaited ++ [a], documents := s.documents.push [] }
    return match r.redirection [] with
      | .document fd _ => .document fd a.number
      | other => other

/-- Reads redirections as long as there are any. -/
def redirections : Nat → List Redirection → Parser (List Redirection)
  | 0, done => return done.reverse
  | fuel + 1, done => do
    if (← token list) = .redirection then redirections fuel ((← redirectionWord list) :: done)
    else
      giveBackToken
      return done.reverse

/-- Commands of the shell that no function may be named after. -/
def reservedNames : List String :=
  [".", ":", "break", "continue", "eval", "exec", "exit", "export", "local", "readonly", "return",
   "set", "shift", "times", "trap", "unset"]

/-- What is read of a simple command, last first. -/
structure Simple where
  /-- The words that set variables. -/
  assignments : List Word
  /-- The other words. -/
  words : List Word
  /-- The redirections. -/
  redirections : List Redirection

/-- Reads a simple command, or the definition of a function. -/
def simple (body : Parser Tree) (line : Nat) : Nat → Bool → Simple → Parser Tree
  | 0, _, _ => return .empty
  | fuel + 1, first, s => do
    allow false false first
    let t ← token list
    let r ← get
    let finish : Parser Tree := do
      giveBackToken
      return .simple line s.assignments.reverse s.words.reverse s.redirections.reverse
    match t with
    | .word =>
      if first ∧ Word.isAssignment r.word then
        simple body line fuel true { s with assignments := r.word :: s.assignments }
      else simple body line fuel false { s with words := r.word :: s.words }
    | .redirection =>
      let redirection ← redirectionWord list
      simple body line fuel first { s with redirections := redirection :: s.redirections }
    | .leftParen =>
      match s.words, s.assignments, s.redirections with
      | [word], [], [] =>
        if (← token list) ≠ .rightParen then expected .rightParen
        match Word.plain? word with
        | none => complain "Bad function name"
        | some name =>
          if !Word.isName name ∨ reservedNames.any (fun n => utf8 n = name) then
            complain "Bad function name"
          else
            allow true true true
            let line := (← get).line
            return .define line name (← body)
      | _, _, _ => finish
    | _ => finish

/-- Reads the words that a loop goes through. -/
def eachWords : Nat → List Word → Parser (List Word)
  | 0, done => return done.reverse
  | fuel + 1, done => do
    if (← token list) = .word then eachWords fuel ((← get).word :: done)
    else return done.reverse

/-- Reads the patterns of an arm; the last token follows them. -/
def patterns : Nat → List Word → Parser (List Word)
  | 0, done => return done.reverse
  | fuel + 1, done => do
    let done := (← get).word :: done
    if (← token list) = .pipe then
      let _ ← token list
      patterns fuel done
    else return done.reverse

/-- Reads the arms of a selection. -/
def arms : Nat → List (List Word × Tree) → Parser (List (List Word × Tree))
  | 0, done => return done.reverse
  | fuel + 1, done => do
    allow true true false
    let t ← token list
    if t = .keyword .esac then return done.reverse
    if t = .leftParen then
      let _ ← token list
    let patterns ← patterns list plenty []
    if (← get).last ≠ .rightParen then expected .rightParen
    let body ← list true
    let done := (patterns, body) :: done
    allow true true false
    let t ← token list
    if t = .keyword .esac then return done.reverse
    if t ≠ .endOfArm then expected .endOfArm
    arms fuel done

/-- Reads what follows the condition of a choice; the result makes the choice from that. -/
def alternatives : Nat → Parser (Tree → Tree)
  | 0 => return id
  | fuel + 1 => do
    if (← token list) ≠ .keyword .thenDo then expected (.keyword .thenDo)
    let yes ← list false
    match ← token list with
    | .keyword .elif =>
      let condition ← list false
      let rest ← alternatives fuel
      return fun first => .choice first yes (rest condition)
    | .keyword .otherwise =>
      let no ← list false
      return fun first => .choice first yes no
    | _ =>
      giveBackToken
      return fun first => .choice first yes .empty

/-- Reads a token that has to be there. -/
def require (t : Token) : Parser Unit := do
  if (← token list) ≠ t then expected t

/-- Reads a command. -/
def command (again : Parser Tree) : Parser Tree := do
  let line := (← get).line
  let t ← token list
  let body ← match t with
    | .keyword .ifSo =>
      let condition ← list false
      let choice := (← alternatives list plenty) condition
      require list (.keyword .fi)
      pure choice
    | .keyword .whileTrue =>
      let condition ← list false
      require list (.keyword .doing)
      let body ← list false
      require list (.keyword .done)
      pure (.loop false condition body)
    | .keyword .untilTrue =>
      let condition ← list false
      require list (.keyword .doing)
      let body ← list false
      require list (.keyword .done)
      pure (.loop true condition body)
    | .keyword .forEach =>
      let t ← token list
      let r ← get
      match if t = .word ∧ !r.quoted then Word.plain? r.word else none with
      | none => complain "Bad for loop variable"
      | some name =>
        if !Word.isName name then complain "Bad for loop variable"
        allow true true true
        let words ← if (← token list) = .keyword .inWords then do
            let words ← eachWords list plenty []
            let last := (← get).last
            if last ≠ .newline ∧ last ≠ .semicolon then unexpected
            pure words
          else do
            if (← get).last ≠ .semicolon then giveBackToken
            pure [allParameters]
        allow true true true
        require list (.keyword .doing)
        let body ← list false
        require list (.keyword .done)
        pure (.each line name words body)
    | .keyword .caseOf =>
      if (← token list) ≠ .word then expected .word
      let word := (← get).word
      allow true true true
      require list (.keyword .inWords)
      pure (.select line word (← arms list plenty []))
    | .leftParen =>
      let body ← list false
      require list .rightParen
      pure (.subshell line body [])
    | .keyword .opening =>
      let body ← list false
      require list (.keyword .closing)
      pure body
    | .word =>
      giveBackToken
      return ← simple list again line plenty true ⟨[], [], []⟩
    | .redirection =>
      giveBackToken
      return ← simple list again line plenty true ⟨[], [], []⟩
    | _ => unexpected
  allow false true true
  let changes ← redirections list plenty []
  return match body, changes with
    | _, [] => body
    | .subshell line body _, _ => .subshell line body changes
    | _, _ => .redirected line body changes

/-- Reads the commands of a pipeline after the first. -/
def pipeline (again : Parser Tree) : Nat → List Tree → Parser (List Tree)
  | 0, done => return done.reverse
  | fuel + 1, done => do
    if (← token list) = .pipe then
      allow true true true
      pipeline again fuel ((← again) :: done)
    else
      giveBackToken
      return done.reverse

/-- Reads a pipeline, which may be negated. -/
def negation (again : Parser Tree) : Parser Tree := do
  let negated := (← token list) = .keyword .bang
  if negated then allow false true true else giveBackToken
  let first ← again
  let commands ← pipeline list again plenty [first]
  let body := match commands with
    | [one] => one
    | _ => .pipe commands false
  return if negated then .negated body else body

/-- Reads the pipelines that are joined to a first by conditions. -/
def conditions (again : Parser Tree) : Nat → Tree → Parser Tree
  | 0, first => return first
  | fuel + 1, first => do
    match ← token list with
    | .both =>
      allow true true true
      conditions again fuel (.both first (← negation list again))
    | .either =>
      allow true true true
      conditions again fuel (.either first (← negation list again))
    | _ =>
      giveBackToken
      return first

/-- A command that is not waited for. -/
def inBackground : Tree → Tree
  | .pipe commands _ => .pipe commands true
  | .redirected line body changes => .background line body changes
  | body => .background 0 body []

/-- Reads a list of commands. A list that is a line ends with it; the result is nothing when the
script ends instead of a line with commands. Any other list goes on over newlines, and may have to
begin with a command. -/
def listOf (again : Parser Tree) (line : Bool) : Nat → Bool → Option Tree → Parser (Option Tree)
  | 0, _, done => return done
  | fuel + 1, mayEnd, done => do
    allow (!line) true true
    let t ← token list
    let atEnd : Parser (Option Tree) := do
      documents (list true)
      modify fun r => { r with again := true, last := .endOfFile }
      return if line then done else some (done.getD .empty)
    match t with
    | .newline =>
      documents (list true)
      return some (done.getD .empty)
    | .endOfFile => atEnd
    | _ =>
      giveBackToken
      if mayEnd ∧ t.endsList then return some (done.getD .empty)
      let body ← conditions list again plenty (← negation list again)
      let t ← token list
      let body := if t = .background then inBackground body else body
      let done := match done with
        | none => body
        | some first => .sequence first body
      match t with
      | .endOfFile =>
        documents (list true)
        modify fun r => { r with again := true, last := .endOfFile }
        return some done
      | .newline =>
        giveBackToken
        listOf again line fuel (mayEnd || !line) (some done)
      | .background => listOf again line fuel (mayEnd || !line) (some done)
      | .semicolon => listOf again line fuel (mayEnd || !line) (some done)
      | _ =>
        if line then unexpected
        giveBackToken
        return some done

/-- What is to be read. -/
inductive Goal where
  /-- A list between other tokens, which may or may not be without commands. -/
  | list (mayBeEmpty : Bool)
  /-- A command. -/
  | command

/-- Reads something that may contain itself. -/
def read : Nat → Goal → Parser Tree
  | 0, _ => complain "too deep"
  | fuel + 1, .list mayBeEmpty => do
    let body ←
      listOf (fun b => read fuel (.list b)) (read fuel .command) false plenty mayBeEmpty none
    return body.getD .empty
  | fuel + 1, .command => command (fun b => read fuel (.list b)) (read fuel .command)

/-- The number of commands that may contain each other. -/
def depthLimit : Nat := 100000

/-- Reads the commands of a line and of the lines that they go on in. The result is nothing at the
end of the script. -/
def line : Parser (Option Tree) := do
  modify fun r => { r with again := false, awaited := [] }
  listOf (fun b => read depthLimit (.list b)) (read depthLimit .command) true plenty false none

/-- Reads a text as if it stood in quotation marks. -/
def quotedText (text : Bytes) : Parser Word :=
  within text do
    let list := read depthLimit (.list true)
    let (s, _) ← scan list (return ()) (some ⟨0, [0], false, true⟩) plenty false (← next)
      (.start .double)
    return s.pieces.reverse

end Parser

namespace Reader

/-- A reader of a text that begins at a line, behind texts that were put in front of it. -/
def start (pushed : List Pushed) (text : Bytes) (complete : Bool) (line : Nat)
    (aliases : List (Bytes × Bytes)) (documents : Array Word) : Reader :=
  { pushed := pushed, text := text, complete := complete, line := line,
    aliases := aliases, last := .newline, again := false, word := [], quoted := false,
    redirection := fun _ => .copy 0 .nothing, document := none, skipsNewlines := false,
    seesKeywords := false, seesAliases := false, seesDelimiter := false, awaited := [],
    documents := documents }

end Reader

end CommandShell.Script
