import CommandShell.Script.Token

/-!
# Reading words

A word goes on until a byte that cannot be part of it. What a byte means depends on what encloses
it: nothing, quotation marks of either kind, braces after a dollar sign, or an arithmetic
expression; these may enclose each other. Documents are read in the same way, line by line, until
the line that ends them.
-/

namespace CommandShell.Script

/-- What encloses a byte of a word. -/
inductive Mode where
  /-- Nothing. -/
  | bare
  /-- Quotation marks in which places are filled. -/
  | double
  /-- Quotation marks in which everything stands for itself. -/
  | single
  /-- An arithmetic expression. -/
  | sum
deriving DecidableEq

/-- A level of what encloses a byte. -/
structure Level where
  /-- What encloses the byte. -/
  mode : Mode
  /-- Whether what is read there is quoted. -/
  double : Bool
  /-- The number of braces that are open at this level. -/
  braces : Nat
  /-- The number of these that are quoted. -/
  quotedBraces : Nat
  /-- The number of parentheses that are open at this level. -/
  parens : Nat
  /-- Whether quotation marks are open inside of braces. -/
  inner : Bool
  /-- Whether the level was begun for braces. -/
  forBraces : Bool

namespace Level

/-- A level that begins. -/
def start (mode : Mode) (double : Bool) : Level :=
  ⟨mode, double, 0, 0, 0, false, false⟩

end Level

/-- A piece that is not complete yet, with what stands before it in the word, last first. -/
inductive Unfinished where
  /-- A parameter with its word still to be read. -/
  | parameter (name : Bytes) (use : Use) (orEmpty : Bool) (before : List Piece)
  /-- An arithmetic expression. -/
  | arithmetic (before : List Piece)

/-- How far a word has been read. -/
structure Scan where
  /-- The level that the next byte is at. -/
  level : Level
  /-- The levels around it. -/
  outer : List Level
  /-- The pieces that are read, last first. -/
  pieces : List Piece
  /-- The pieces around them that are not complete. -/
  unfinished : List Unfinished
  /-- Whether something was quoted. -/
  quoted : Bool

namespace Scan

/-- A word of which nothing is read. -/
def start (mode : Mode) : Scan :=
  ⟨.start mode (mode = .double), [], [], [], false⟩

/-- Adds a piece. -/
def add (s : Scan) (p : Piece) : Scan :=
  { s with pieces := p :: s.pieces }

/-- Adds a byte. -/
def byte (s : Scan) (b : UInt8) (escaped : Bool) : Scan :=
  s.add (.byte b escaped)

/-- Begins a level. -/
def push (s : Scan) (level : Level) : Scan :=
  { s with level := level, outer := s.level :: s.outer }

/-- Ends a level. -/
def pop (s : Scan) : Scan :=
  match s.outer with
  | [] => s
  | level :: outer => { s with level := level, outer := outer }

/-- Completes the piece that is read. -/
def close (s : Scan) : Scan :=
  match s.unfinished with
  | [] => s
  | .parameter name use orEmpty before :: rest =>
    { s with pieces := .parameter name use orEmpty s.pieces.reverse :: before, unfinished := rest }
  | .arithmetic before :: rest =>
    { s with pieces := .arithmetic s.pieces.reverse :: before, unfinished := rest }

/-- Begins a piece. -/
def enclose (s : Scan) (u : List Piece → Unfinished) : Scan :=
  { s with pieces := [], unfinished := u s.pieces :: s.unfinished }

end Scan

/-- Whether a byte has a meaning in patterns, paths or assignments, so that it is escaped in
quotation marks. -/
def isSignificant (b : UInt8) : Bool :=
  (utf8 "!*?[=~:/-]\\").contains b

/-- Whether a byte ends a word that is not quoted. -/
def endsWord (b : UInt8) : Bool :=
  (utf8 "<>();&| \t\n").contains b

/-- Whether a byte is the name of a parameter with a value of its own kind. -/
def isSpecial (b : UInt8) : Bool :=
  Word.isDigit b || (utf8 "@*#?-$!").contains b

namespace Parser

variable (list : Parser Tree)

/-- The text of a command between backquotes. -/
def backquoted (double : Bool) : Nat → Bytes → Parser Bytes
  | 0, _ => complain "EOF in backquote substitution"
  | fuel + 1, done => do
    let c ← nextJoined plenty
    match c with
    | none => complain "EOF in backquote substitution"
    | some 0x60 => return done.reverse
    | some 0x5C =>
      let d ← next
      match d with
      | none => backquoted double fuel (0x5C :: done)
      | some d =>
        if d = 0x5C ∨ d = 0x60 ∨ d = 0x24 ∨ (double ∧ d = 0x22) then
          backquoted double fuel (d :: done)
        else backquoted double fuel (d :: 0x5C :: done)
    | some b =>
      if b = 0x0A then countLine
      backquoted double fuel (b :: done)

/-- A command whose output is to be filled in; documents that it asks for are its own. -/
def substitution (double old : Bool) (documents : Parser Unit) : Parser Tree := do
  let awaited := (← get).awaited
  modify fun r => { r with awaited := [] }
  let body ← if old then do
      let text ← backquoted double plenty []
      within text do
        modify fun r => { r with again := false }
        let body ← list
        modify fun r => { r with again := false }
        pure body
    else do
      modify fun r => { r with again := false }
      let body ← list
      let r ← get
      let t := if r.again then r.last else .endOfFile
      if t ≠ .rightParen then expected .rightParen
      modify fun r => { r with again := false }
      within [] documents
      pure body
  modify fun r => { r with awaited := awaited }
  return body

/-- The bytes of a name, or of a number, from its first byte on; the next byte is read as well. -/
def spelled (continues : UInt8 → Bool) : Nat → Bytes → Parser (Bytes × Option UInt8)
  | 0, done => return (done.reverse, none)
  | fuel + 1, done => do
    let c ← nextJoined plenty
    match c with
    | some b => if continues b then spelled continues fuel (b :: done) else return (done.reverse, c)
    | none => return (done.reverse, c)

/-- How a parameter is used, from the byte that follows its name in braces. -/
def useOf (c : Option UInt8) : Parser (Use × Bool) := do
  let orEmpty := c = some 0x3A
  let d ← if orEmpty then nextJoined plenty else pure c
  match d with
  | some 0x7D => return (.value, orEmpty)
  | some 0x2D => return (.otherwise, orEmpty)
  | some 0x2B => return (.alternative, orEmpty)
  | some 0x3F => return (.require, orEmpty)
  | some 0x3D => return (.assign, orEmpty)
  | some b =>
    if !orEmpty ∧ (b = 0x25 ∨ b = 0x23) then
      let e ← nextJoined plenty
      let longest := e = d
      if !longest then giveBack e
      return (if b = 0x25 then .withoutEnd longest else .withoutStart longest, false)
    else
      return (.meaningless, orEmpty)
  | none => return (.meaningless, orEmpty)

/-- The name of a parameter in braces, and the byte after it. If the first byte is `#`, what follows
decides whether it asks for a length. -/
def bracedName (c : Option UInt8) : Parser (Option (Bytes × Bool) × Option UInt8) := do
  match c with
  | none =>
    giveBack none
    return (none, none)
  | some b =>
    if Word.startsName b then
      let (name, c) ← spelled Word.continuesName plenty [b]
      return (some (name, false), c)
    else if Word.isDigit b then
      let (name, c) ← spelled Word.isDigit plenty [b]
      return (some (name, false), c)
    else if b = 0x7D then return (none, c)
    else
      let d ← nextJoined plenty
      if b = 0x23 then
        match d with
        | some x =>
          if Word.startsName x then
            let (name, c) ← spelled Word.continuesName plenty [x]
            return (some (name, true), c)
          else if Word.isDigit x then
            let (name, c) ← spelled Word.isDigit plenty [x]
            return (some (name, true), c)
          else
            let e ← nextJoined plenty
            if x = 0x7D ∨ e ≠ some 0x7D then
              giveBack e
              return (some ([b], false), d)
            else if isSpecial x then return (some ([x], true), e)
            else return (none, e)
        | none => return (some ([b], false), d)
      else if isSpecial b then return (some ([b], false), d)
      else return (none, d)

/-- What follows a dollar sign. -/
def dollar (documents : Parser Unit) (s : Scan) : Parser Scan := do
  let c ← nextJoined plenty
  let asIs : Parser Scan := do
    giveBack c
    return s.byte 0x24 false
  if (← get).seesDelimiter then asIs
  else
    match c with
    | none => asIs
    | some 0x28 =>
      let d ← nextJoined plenty
      if d = some 0x28 then
        return (s.push (.start .sum true)).enclose .arithmetic
      else
        giveBack d
        return s.add (.command (← substitution list s.level.double false documents))
    | some 0x7B =>
      let c ← nextJoined plenty
      let (named, c) ← bracedName c
      let (name, use, orEmpty) ← match named with
        | none => do
          giveBack c
          pure ([], Use.meaningless, false)
        | some (name, true) =>
          if c = some 0x7D then do
            giveBack c
            pure (name, .length, false)
          else do
            giveBack c
            pure (name, .meaningless, false)
        | some (name, false) => do
          let (use, orEmpty) ← useOf c
          pure (name, use, orEmpty)
      if use = .value then
        return s.add (.parameter name .value false [])
      else
        let pattern := match use with
          | .withoutEnd _ => true
          | .withoutStart _ => true
          | _ => false
        let mode := if pattern then .bare
          else if s.level.mode = .sum then .double else s.level.mode
        let s := if mode ≠ s.level.mode ∨ s.level.inner then
            s.push { Level.start mode (mode ≠ .bare) with forBraces := true }
          else s
        let level := { s.level with
          braces := s.level.braces + 1
          quotedBraces := s.level.quotedBraces + if s.level.double then 1 else 0 }
        return { s with level := level }.enclose (.parameter name use orEmpty)
    | some b =>
      if Word.startsName b then
        let (name, c) ← spelled Word.continuesName plenty [b]
        giveBack c
        return s.add (.parameter name .value false [])
      else if isSpecial b then return s.add (.parameter [b] .value false [])
      else asIs

/-- A quotation mark is met: it begins or ends a quotation. In a document it may mean nothing. -/
def quotation (inDocument : Bool) (s : Scan) : Scan :=
  if inDocument then s else s.add .mark

/-- Takes a byte that does not end the word. -/
def take (documents : Parser Unit) (inDocument : Bool) (b : UInt8) (s : Scan) : Parser Scan := do
  let l := s.level
  let toggled : Scan → Scan := fun s =>
    quotation inDocument <|
      if s.level.braces > 0 then { s with level := { s.level with inner := !s.level.inner } } else s
  if b = 0x0A then
    countLine
    return s.byte b false
  else if l.mode = .single then
    if b = 0x27 then
      if inDocument ∧ l.braces = 0 then return s.byte b false
      else
        let level := if l.quotedBraces = 0 then { l with mode := .bare, double := false } else l
        return quotation inDocument { s with level := level, quoted := true }
    else return s.byte b (isSignificant b && !inDocument)
  else
    match b with
    | 0x5C =>
      let c ← next
      match c with
      | none =>
        giveBack c
        return s.byte 0x5C true
      | some c =>
        let kept := l.double && c ≠ 0x5C && c ≠ 0x60 && c ≠ 0x24 &&
          (c ≠ 0x22 || (inDocument && l.braces = 0)) && (c ≠ 0x7D || l.braces = 0)
        let s := if kept then s.byte 0x5C true else s
        return { s.byte c true with quoted := true }
    | 0x60 =>
      return s.add (.command (← substitution list l.double true documents))
    | 0x24 => dollar list documents s
    | 0x7D =>
      if !l.inner ∧ l.braces > 0 then
        let left := { l with braces := l.braces - 1 }
        let s := { s with level := left }
        let s := if left.braces = 0 ∧ l.forBraces then s.pop
          else if l.quotedBraces > 0 then
            { s with level := { left with quotedBraces := l.quotedBraces - 1 } }
          else s
        return s.close
      else return s.byte b false
    | 0x27 =>
      if l.mode = .bare then
        return quotation inDocument { s with level := { l with mode := .single } }
      else return s.byte b true
    | 0x22 =>
      if l.mode = .bare then
        return toggled { s with level := { l with mode := .double, double := true } }
      else if l.mode = .double then
        if inDocument ∧ l.braces = 0 then return s.byte b true
        else
          let level := if l.quotedBraces = 0 then { l with mode := .bare, double := false } else l
          return toggled { s with level := level, quoted := true }
      else return s.byte b false
    | 0x28 =>
      if l.mode = .sum then
        return { s with level := { l with parens := l.parens + 1 } }.byte b false
      else return s.byte b (l.mode = .double)
    | 0x29 =>
      if l.mode = .sum then
        if l.parens > 0 then
          return { s with level := { l with parens := l.parens - 1 } }.byte b false
        else
          let c ← nextJoined plenty
          if c = some 0x29 then return s.pop.close
          else
            giveBack c
            return s.byte b false
      else return s.byte b (l.mode = .double)
    | _ => return s.byte b (l.mode = .double && isSignificant b)

/-- Whether a line is the one that ends a document, from its first byte on. If it is, it is read. -/
def endsDocument (a : Awaited) (c : Option UInt8) : Parser (Option UInt8 × Bool) := do
  let c ← stripped plenty c
  let r ← get
  if ← isDelimiter a.delimiter c then
    countLine
    return (none, true)
  else
    set r
    return (c, false)
where
  /-- The first byte after the tabs that are dropped. -/
  stripped : Nat → Option UInt8 → Parser (Option UInt8)
    | 0, c => return c
    | fuel + 1, c => do
      if a.stripsTabs ∧ c = some 0x09 then stripped fuel (← next) else return c
  /-- Whether the line consists of the delimiter. -/
  isDelimiter : Bytes → Option UInt8 → Parser Bool
    | [], c => return c = some 0x0A || c = none
    | b :: rest, c => do
      if c = some b then isDelimiter rest (← next) else return false

/-- The next byte of a word: outside of quotation marks that keep everything, backslashes in front
of newlines are passed over. -/
def nextOf (s : Scan) : Parser (Option UInt8) :=
  if s.level.mode = .single then next else nextJoined plenty

/-- Reads a word, or a document, from its first byte on. The byte that follows it is the answer. -/
def scan (documents : Parser Unit) (document : Option Awaited) :
    Nat → Bool → Option UInt8 → Scan → Parser (Scan × Option UInt8)
  | 0, _, c, s => return (s, c)
  | fuel + 1, fresh, c, s => do
    let (c, ended) ← match document, fresh with
      | some a, true => endsDocument a c
      | _, _ => pure (c, false)
    match c with
    | none => return (s, none)
    | some b =>
      if ended then return (s, none)
      else if s.level.mode = .bare ∧ s.level.braces = 0 ∧ endsWord b then return (s, c)
      else
        let s ← take list documents document.isSome b s
        let fresh := b = 0x0A
        scan documents document fuel fresh (← nextOf s) s

/-- What is wrong with a word that has come to its end. -/
def checkEnd (document : Bool) (s : Scan) : Parser Unit := do
  if s.level.mode = .sum then complain "Missing '))'"
  if s.level.mode ≠ .bare ∧ !document then complain "Unterminated quoted string"
  if s.level.braces ≠ 0 then complain "Missing '\x7d'"

/-- Reads the documents that begin after the line. -/
def documentsFrom (again : Parser Unit) : Nat → Parser Unit
  | 0 => return ()
  | fuel + 1 => do
    match (← get).awaited with
    | [] => return ()
    | a :: rest =>
      modify fun r => { r with awaited := rest }
      let c ← if a.expands then nextJoined plenty else next
      let mode := if a.expands then Mode.double else .single
      let (s, _) ← scan list again (some a) plenty true c (.start mode)
      checkEnd true s
      modify fun r => { r with documents := r.documents.set! a.number s.pieces.reverse }
      documentsFrom again fuel

/-- Reads the documents that begin after the line; documents of commands in them are read before. -/
def documents : Parser Unit :=
  documentsFrom list (documentsFrom list (return ()) plenty) plenty

end Parser

end CommandShell.Script
