import CommandShell.Script.Pattern
import CommandShell.Script.Process

/-!
# Filling in words

The places in a word are filled with the values of parameters, with what commands write and with the
values of arithmetic expressions. What comes from a place that is not quoted is cut into fields, and
a field that is a pattern becomes the paths that it describes, if there are any. Until that is done
each byte remembers whether it stands for itself and whether it may separate fields.
-/

namespace CommandShell.Script

/-- A byte of a word that is being filled in, or a mark between bytes. -/
inductive Cell where
  /-- A byte. -/
  | byte (b : UInt8) (escaped splits : Bool)
  /-- A place where something was quoted, so that the field is kept even if it is empty. -/
  | kept
  /-- The end of a parameter that another follows, as if there was a blank. -/
  | gap
  /-- The end of a field. -/
  | cut

namespace Cell

/-- The byte of a cell. -/
def byte? : Cell → Option UInt8
  | byte b _ _ => some b
  | _ => none

/-- The bytes of cells. -/
def bytes (cells : Array Cell) : Bytes :=
  cells.toList.filterMap byte?

/-- The cells as a pattern. -/
def marks (cells : List Cell) : List Mark :=
  cells.filterMap fun
    | byte b escaped _ => some (b, escaped)
    | _ => none

/-- The cells of all parameters, one after another; all but the first begin with what separates
them. -/
def parameters : List Cell → List (List Cell)
  | [] => [[]]
  | c :: rest =>
    match parameters rest, c with
    | p :: more, gap => [] :: (c :: p) :: more
    | p :: more, cut => [] :: (c :: p) :: more
    | p :: more, _ => (c :: p) :: more
    | [], _ => [[c]]

/-- Cells without the first bytes; other cells are kept. -/
def dropBytes : Nat → List Cell → List Cell
  | 0, cells => cells
  | _, [] => []
  | n + 1, byte _ _ _ :: rest => dropBytes n rest
  | n + 1, c :: rest => c :: dropBytes (n + 1) rest

/-- Cells up to a number of bytes. -/
def takeBytes : Nat → List Cell → List Cell
  | _, [] => []
  | 0, byte _ _ _ :: _ => []
  | n + 1, byte b e s :: rest => byte b e s :: takeBytes n rest
  | n, c :: rest => c :: takeBytes n rest

/-- Parameters, the last first, without the end of the last one that has an end which a pattern
describes, and without those behind it. -/
def withoutSomeEnd (pattern : List Mark) : List (List Cell) → Option (List Cell)
  | [] => none
  | p :: before =>
    match Pattern.endStart? pattern false (p.filterMap byte?) with
    | some n => some (before.reverse.flatten ++ takeBytes n p)
    | none => withoutSomeEnd pattern before

/-- The cells of parameters without a beginning or an end that a pattern describes. A beginning is
looked for in the first parameter; if that as a whole is the longest one, nothing is left of the
others either. Of the longest end this holds wherever it begins in the first parameter, and the
shortest is looked for in the last parameter, and then in those before it. -/
def without (pattern : List Mark) (use : Use) (cells : List Cell) : List Cell :=
  match use, parameters cells with
  | .withoutStart longest, first :: rest =>
    let bytes := first.filterMap byte?
    match Pattern.startLength? pattern longest bytes with
    | some n =>
      dropBytes n first ++ if longest ∧ n = bytes.length then [] else rest.flatten
    | none => cells
  | .withoutEnd true, first :: _ =>
    match Pattern.endStart? pattern true (first.filterMap byte?) with
    | some n => takeBytes n first
    | none => cells
  | .withoutEnd false, all => (withoutSomeEnd pattern all.reverse).getD cells
  | _, _ => cells

end Cell

/-- How a word is filled in. -/
structure Manner where
  /-- It is quoted. -/
  quoted : Bool
  /-- It becomes fields. -/
  full : Bool
  /-- It is the word in a place of another word, so that its own bytes may separate fields. -/
  inner : Bool
  /-- A tilde at its beginning stands for a directory. -/
  tilde : Bool
  /-- So does a tilde after a colon, and after the first equals sign. -/
  assigning : Bool

namespace Manner

/-- The manner inside of a quotation, if one is open. -/
def within (m : Manner) (quotation : Bool) : Manner :=
  { m with quoted := m.quoted || quotation }

/-- To fields. -/
def fields : Manner := ⟨false, true, false, true, false⟩

/-- To one text. -/
def text : Manner := ⟨false, false, false, true, false⟩

/-- To the value of a variable. -/
def assignment : Manner := ⟨false, false, false, false, true⟩

/-- To one text, as if in quotation marks. -/
def quotedText : Manner := ⟨true, false, false, false, false⟩

end Manner

namespace Act

/-- The letters of the options, in the order in which `$-` shows them. -/
def optionLetters : List Char :=
  ['e', 'f', 'I', 'i', 'm', 'n', 's', 'x', 'v', 'V', 'E', 'C', 'a', 'b', 'u',
   'p']

/-- Adds the bytes of a value. -/
def pour (m : Manner) (out : Array Cell) (value : Bytes) : Array Cell :=
  value.foldl (fun out b => out.push (.byte b m.quoted (m.full && !m.quoted))) out

/-- Adds the parameters, with what separates them. -/
def pourAll (m : Manner) (star : Bool) (s : Shell) (out : Array Cell) : Array Cell :=
  let separate : Array Cell → Array Cell := fun out =>
    if m.full ∧ !m.quoted then out.push .gap
    else if m.full ∧ !star then (out.push .cut).push .kept
    else
      match s.separators.head? with
      | some b => out.push (.byte b m.quoted false)
      | none => out
  let out := if m.full ∧ m.quoted ∧ !star ∧ s.parameters ≠ [] then out.push .kept else out
  match s.parameters with
  | [] => out
  | p :: rest => rest.foldl (fun out q => pour m (separate out) q) (pour m out p)

/-- The value of a parameter, if it has one. -/
def valueOf (name : Bytes) (s : Shell) : Option Bytes :=
  match name with
  | [0x24] => some (utf8 (toString s.pid))
  | [0x3F] => some (utf8 (toString s.status))
  | [0x23] => some (utf8 (toString s.parameters.length))
  | [0x21] => s.lastBackground.map fun pid => utf8 (toString pid)
  | [0x2D] =>
    some ((optionLetters.filter fun c => s.options.contains c.toUInt8).map (·.toUInt8)).reverse
  | [0x30] => some s.name
  | _ =>
    match name with
    | b :: _ =>
      if Word.isDigit b then
        let n := Arithmetic.numberOf 10 name
        if n = 0 then some s.name else s.parameters[n - 1]?
      else s.value? name
    | [] => none

/-- What is wrong with a parameter without a value. -/
def unsetComplaint (name : Bytes) (orEmpty : Bool) (word : Option Bytes) : Bytes :=
  name ++ utf8 ": " ++ match word with
    | some w => w
    | none => utf8 ("parameter not set" ++ if orEmpty then " or null" else "")

variable (run : Runner)

/-- Fills in what a command writes. -/
def pourCommand (m : Manner) (body : Tree) (out : Array Cell) : Act (Array Cell) := do
  match body with
  | .empty => return out
  | _ =>
    let (reading, writing) ← openEnds
    let pid ← fork run do
      let _ ← call (.close reading)
      if writing ≠ 1 then
        let _ ← call (.redirect writing 1)
        let _ ← call (.close writing)
      let _ ← run (.tree body false true)
    let _ ← call (.close writing)
    let j ← addJob [pid]
    let bytes ← readAll reading rounds []
    let _ ← call (.close reading)
    let status ← awaitJob rounds j.number
    modify fun s => { s with filledStatus := status }
    let trimmed := (bytes.reverse.dropWhile (· = 0x0A)).reverse.filter (· ≠ 0)
    return pour m out trimmed

/-- Fills in the value of an arithmetic expression. -/
def pourSum (m : Manner) (expression : Bytes) (out : Array Cell) : Act (Array Cell) := do
  let s ← get
  match Arithmetic.run s.value? expression with
  | .error (.expression complaint) =>
    fail (utf8 ("arithmetic expression: " ++ complaint ++ ": \"") ++ expression ++ utf8 "\"")
  | .error (.value text) => fail (utf8 "Illegal number: " ++ text)
  | .error .trap =>
    let (pid, _) ← call .self
    let _ ← call (.signal pid Signal.fpe.number)
    exitProcess (128 + Signal.fpe.number)
  | .ok (n, assigned) =>
    for a in assigned do
      setVariable a.1 (utf8 (toString a.2)) false
    return pour m out (utf8 (toString n))

/-- The users of the system with their directories. -/
def homes : List (String × String) :=
  [("root", "/root"), ("daemon", "/usr/sbin"), ("bin", "/bin"), ("sys", "/dev"), ("sync", "/bin"),
   ("games", "/usr/games"), ("man", "/var/cache/man"), ("lp", "/var/spool/lpd"),
   ("mail", "/var/mail"), ("news", "/var/spool/news"), ("uucp", "/var/spool/uucp"),
   ("proxy", "/bin"), ("www-data", "/var/www"), ("backup", "/var/backups"),
   ("list", "/var/list"), ("irc", "/run/ircd"), ("nobody", "/nonexistent")]

/-- The directory that a tilde with a name after it stands for. -/
def home? (s : Shell) (user : Bytes) : Option Bytes :=
  if user = [] then s.value? (utf8 "HOME")
  else (homes.find? fun h => utf8 h.1 = user).map fun h => utf8 h.2

/-- The name after a tilde, if the tilde stands for a directory there. -/
def tildeName? (assigning : Bool) (pieces : List Piece) : Option (Bytes × List Piece) :=
  match pieces with
  | .byte 0x7E false :: rest =>
    let name := rest.takeWhile fun
      | .byte b false => b ≠ 0x2F && !(assigning && b = 0x3A)
      | _ => false
    let ends := match rest.drop name.length with
      | [] => true
      | .byte _ false :: _ => true
      | _ => false
    if ends then some (Word.unquoted name, rest.drop name.length) else none
  | _ => none

/-- Fills in a tilde at the front of pieces. -/
def pourTilde (m : Manner) (pieces : List Piece) (out : Array Cell) (s : Shell) :
    Array Cell × List Piece :=
  match tildeName? m.assigning pieces with
  | none => (out, pieces)
  | some (name, rest) =>
    match home? s name with
    | some directory =>
      if directory = [] then (out, pieces) else (pour { m with quoted := true } out directory, rest)
    | none => (out, pieces)

/-- How far the pieces of a word have been filled in. -/
structure Filling where
  /-- The cells so far. -/
  out : Array Cell
  /-- Whether a quotation is open in this word. -/
  quotation : Bool
  /-- Whether an equals sign has been passed. -/
  assigned : Bool

/-- Fills in the pieces of a word. -/
def pourWord : Nat → Manner → List Piece → Array Cell → Act (Array Cell)
  | 0, _, _, out => return out
  | fuel + 1, m, pieces, out => do
    let s ← get
    let (out, pieces) := if m.tilde then pourTilde m pieces out s else (out, pieces)
    go fuel { m with tilde := false } pieces ⟨out, false, false⟩
where
  /-- Fills in pieces one after the other. -/
  go : Nat → Manner → List Piece → Filling → Act (Array Cell)
    | 0, _, _, f => return f.out
    | _ + 1, _, [], f => return f.out
    | fuel + 1, m, piece :: rest, f => do
      let now := m.within f.quotation
      match piece with
      | .byte b escaped =>
        let splits := m.inner && m.full && !now.quoted && !escaped
        let out := f.out.push (.byte b (escaped || now.quoted) splits)
        if m.assigning ∧ !escaped ∧ ((b = 0x3D ∧ !f.assigned) ∨ b = 0x3A) then
          let s ← get
          let (out, rest) := pourTilde m rest out s
          go fuel m rest { f with out := out, assigned := f.assigned || b = 0x3D }
        else go fuel m rest { f with out := out }
      | .mark =>
        match f.quotation, rest with
        | false, .parameter [0x40] .value false [] :: .mark :: rest =>
          let out ← pourParameter fuel { m with quoted := true } [0x40] .value false [] f.out
          go fuel m rest { f with out := out }
        | _, _ => go fuel m rest { f with out := f.out.push .kept, quotation := !f.quotation }
      | .parameter name use orEmpty word =>
        let out ← pourParameter fuel now name use orEmpty word f.out
        go fuel m rest { f with out := out }
      | .command body =>
        let out ← pourCommand run now body f.out
        go fuel m rest { f with out := out }
      | .arithmetic expression =>
        let text ← pourWord fuel .quotedText expression #[]
        let out ← pourSum now (Cell.bytes text) f.out
        go fuel m rest { f with out := out }
  /-- Fills in the value of a parameter. -/
  pourParameter : Nat → Manner → Bytes → Use → Bool → List Piece → Array Cell → Act (Array Cell)
    | 0, _, _, _, _, _, out => return out
    | fuel + 1, m, name, use, orEmpty, word, out => do
      if use = .meaningless then fail (utf8 "Bad substitution")
      let s ← get
      let all := name = [0x40] ∨ name = [0x2A]
      let filled : Option (Array Cell) :=
        if all then some (pourAll m (name = [0x2A]) s #[])
        else (valueOf name s).map (pour m #[])
      let filled := match filled with
        | some cells => if orEmpty ∧ Cell.bytes cells = [] then none else some cells
        | none => none
      let strict := s.options.contains 'u'.toUInt8
      let own := { m with inner := true, tilde := true }
      match use, filled with
      | .alternative, some _ => pourWord fuel own word out
      | .alternative, none => return out
      | .otherwise, none => pourWord fuel own word out
      | .assign, none =>
        let value ← pourWord fuel { Manner.text with quoted := m.quoted } word #[]
        if !Word.isName name then fail (name ++ utf8 ": bad variable name")
        setVariable name (Cell.bytes value) false
        return pour m out (Cell.bytes value)
      | .require, none =>
        let text ← pourWord fuel { Manner.text with quoted := m.quoted } word #[]
        fail (unsetComplaint name orEmpty (if word.isEmpty then none else some (Cell.bytes text)))
      | .length, _ =>
        if filled.isNone ∧ strict then fail (unsetComplaint name false none)
        let size := (filled.map fun c => (Cell.bytes c).length).getD 0
        return pour m out (utf8 (toString size))
      | .withoutEnd _, some cells => cutParameter fuel use word cells out
      | .withoutStart _, some cells => cutParameter fuel use word cells out
      | _, some cells => return out ++ cells
      | _, none =>
        if strict then fail (unsetComplaint name false none)
        return out
  /-- Fills in the value of a parameter without a beginning or an end. -/
  cutParameter : Nat → Use → List Piece → Array Cell → Array Cell → Act (Array Cell)
    | 0, _, _, _, out => return out
    | fuel + 1, use, word, cells, out => do
      let pattern ← pourWord fuel { Manner.text with full := false } word #[]
      return out ++ (Cell.without (Cell.marks pattern.toList) use cells.toList).toArray

/-! ### Fields -/

/-- How far cells have been cut into fields. -/
structure Cutting where
  /-- The fields so far, last first. -/
  fields : List (List Cell)
  /-- The cells of the field that is being filled, last first. -/
  field : List Cell
  /-- Whether a separator has just ended a field, and only separators of blanks may follow. -/
  after : Bool
  /-- Whether the separator that ended it was a blank, so that another kind may follow once. -/
  blank : Bool

/-- Ends a field. -/
def Cutting.finish (c : Cutting) : Cutting :=
  { c with fields := c.field.reverse :: c.fields, field := [] }

/-- Cuts at a cell. -/
def cutAt (separators : Bytes) (c : Cutting) (cell : Cell) : Cutting :=
  match cell with
  | .kept => { c with field := cell :: c.field, after := false }
  | .cut => { c.finish with after := false }
  | .gap =>
    if c.after ∨ c.field.isEmpty then c else { c.finish with after := true, blank := true }
  | .byte b _ splits =>
    if splits ∧ separators.contains b then
      let isBlank := b = 0x20 || b = 0x09 || b = 0x0A
      if c.after then
        if isBlank then c
        else if c.blank then { c with blank := false }
        else { c.finish with blank := false }
      else if isBlank ∧ c.field.isEmpty then c
      else { c.finish with after := true, blank := isBlank }
    else { c with field := cell :: c.field, after := false }

/-- Cuts cells into fields. -/
def cutFields (separators : Bytes) (cells : Array Cell) : List (List Cell) :=
  let c := cells.foldl (cutAt separators) ⟨[], [], false, false⟩
  (if c.field.isEmpty then c.fields else c.finish.fields).reverse

/-! ### Paths -/

/-- The paths that a pattern describes below a directory that is given by its text. The pattern is
given by its parts between slashes. -/
def matching : Nat → Bytes → List (List Mark) → Act (List Bytes)
  | 0, _, _ => return []
  | _ + 1, _, [] => return []
  | fuel + 1, front, part :: rest => do
    let plain := front ++ (Pattern.parts part).filterMap fun
      | .byte b => some b
      | _ => none
    if !Pattern.isProper part then
      match rest with
      | [] =>
        match ← call (.facts plain false) with
        | .ok _ => return [plain]
        | .error _ => return []
      | _ => matching fuel (plain ++ [slash]) rest
    else
      match ← call (.children (if front = [] then utf8 "." else front)) with
      | .error _ => return []
      | .ok entries =>
        let hidden := match part with
          | (0x2E, _) :: _ => true
          | (0x5C, false) :: (0x2E, _) :: _ => true
          | _ => false
        let names := utf8 "." :: utf8 ".." :: entries.map (·.1)
        let names := names.filter fun n =>
          (hidden || n.head? ≠ some 0x2E) && Pattern.describes part n
        match rest with
        | [] => return names.map (front ++ ·)
        | _ =>
          let found ← names.mapM fun n => matching fuel (front ++ n ++ [slash]) rest
          return found.flatten

/-- The parts of a pattern between slashes. -/
def splitSlashes (marks : List Mark) : List (List Mark) :=
  marks.foldr (fun m parts =>
    if m.1 = slash then [] :: parts
    else
      match parts with
      | [] => [[m]]
      | part :: rest => (m :: part) :: rest) [[]]

/-- The fields that a field becomes as a pattern. -/
def pathsOf (field : List Cell) : Act (List Bytes) := do
  let bytes := field.filterMap Cell.byte?
  let marks := Cell.marks field
  if (← option 'f') ∨ !Pattern.isProper marks then return [bytes]
  else
    match ← matching (marks.length + 2) [] (splitSlashes marks) with
    | [] => return [bytes]
    | found => return found.mergeSort fun a b => decide (a ≤ b)

/-- The number of places that may stand in each other. -/
def nesting : Nat := 0x100000

/-- The fields of a word. -/
def fieldsOf (w : Word) : Act (List Bytes) := do
  let cells ← pourWord run nesting .fields w #[]
  let s ← get
  let paths ← (cutFields s.separators cells).mapM pathsOf
  return paths.flatten

/-- A word as one text. -/
def textOf (m : Manner) (w : Word) : Act Bytes := do
  return Cell.bytes (← pourWord run nesting m w #[])

/-- A word as a pattern. -/
def patternOf (w : Word) : Act (List Mark) := do
  return Cell.marks (← pourWord run nesting .text w #[]).toList

end Act

end CommandShell.Script
