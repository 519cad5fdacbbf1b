import CommandShell.Bytes

/-!
# Regular expressions

A regular expression describes texts; it is looked for in a text, and the match that begins first is
taken, and of those that begin there the longest. Parts of an expression can be marked, and what
they matched can be asked for afterwards or demanded once more within the expression.
-/

namespace CommandShell.Text

/-- What is demanded of a place in a text. -/
inductive Anchor where
  /-- A line begins there. -/
  | lineStart
  /-- A line ends there. -/
  | lineEnd
  /-- The text begins there. -/
  | textStart
  /-- The text ends there. -/
  | textEnd
  /-- A word begins there. -/
  | wordStart
  /-- A word ends there. -/
  | wordEnd
  /-- A word begins or ends there. -/
  | wordEdge
  /-- No word begins or ends there. -/
  | noWordEdge
deriving DecidableEq

/-- A regular expression. -/
inductive Regex where
  /-- No byte. -/
  | empty
  /-- A byte. -/
  | byte (b : UInt8)
  /-- Any byte. -/
  | any
  /-- A byte of some, or one that is none of them; given by the bytes from first to last. -/
  | oneOf (negated : Bool) (ranges : List (UInt8 × UInt8))
  /-- A place. -/
  | anchor (a : Anchor)
  /-- A part with a number. -/
  | group (number : Nat) (body : Regex)
  /-- What the part of a number has matched. -/
  | same (number : Nat)
  /-- One expression after another. -/
  | then (first second : Regex)
  /-- One of two expressions. -/
  | either (first second : Regex)
  /-- An expression several times, at least so often, and at most if there is a bound. -/
  | repeated (body : Regex) (least : Nat) (most : Option Nat)
  /-- The same, where fewer times are preferred. -/
  | lazily (body : Regex) (least : Nat) (most : Option Nat)
  /-- An expression of which only the preferred match counts. -/
  | firm (body : Regex)
  /-- A place where an expression matches, or does not: what follows it, or what stands before
  it. -/
  | beside (ahead wanted : Bool) (body : Regex)
  /-- An expression in which upper and lower case are the same or are not. -/
  | folded (folds : Bool) (body : Regex)
  /-- The place where the match is taken to begin. -/
  | begin
deriving DecidableEq

namespace Regex

/-- An expression of which no match goes over a newline unless a newline is asked for. -/
def withinLines : Regex → Regex
  | any => oneOf true [(0x0A, 0x0A)]
  | oneOf true ranges => oneOf true ((0x0A, 0x0A) :: ranges)
  | group n a => group n a.withinLines
  | .then a b => .then a.withinLines b.withinLines
  | either a b => either a.withinLines b.withinLines
  | repeated a least most => repeated a.withinLines least most
  | lazily a least most => lazily a.withinLines least most
  | firm a => firm a.withinLines
  | beside ahead wanted a => beside ahead wanted a.withinLines
  | folded folds a => folded folds a.withinLines
  | r => r

/-- What a regular expression is matched with. -/
structure Subject where
  /-- The text. -/
  bytes : Array UInt8
  /-- Whether upper and lower case are the same. -/
  folds : Bool
  /-- Whether newlines separate lines in the text. -/
  lines : Bool

/-- A place in a text that an expression has reached, and what its parts have matched. -/
structure Place where
  /-- The number of bytes before it. -/
  position : Nat
  /-- From where to where each part has matched. -/
  parts : List (Nat × Nat × Nat)

/-- A byte in lower case. -/
def lower (b : UInt8) : UInt8 :=
  if 0x41 ≤ b ∧ b ≤ 0x5A then b + 0x20 else b

/-- A byte in upper case. -/
def upper (b : UInt8) : UInt8 :=
  if 0x61 ≤ b ∧ b ≤ 0x7A then b - 0x20 else b

/-- Whether a byte belongs to words. -/
def isWordByte (b : UInt8) : Bool :=
  (0x30 ≤ b && b ≤ 0x39) || (0x41 ≤ b && b ≤ 0x5A) || (0x61 ≤ b && b ≤ 0x7A) || b = 0x5F

namespace Subject

/-- Whether two bytes count as the same. -/
def alike (s : Subject) (a b : UInt8) : Bool :=
  a = b || (s.folds && lower a = lower b)

/-- Whether a byte is one of some. -/
def contains (s : Subject) (ranges : List (UInt8 × UInt8)) (b : UInt8) : Bool :=
  let isIn := fun (b : UInt8) => ranges.any fun r => r.1 ≤ b && b ≤ r.2
  isIn b || (s.folds && (isIn (lower b) || isIn (upper b)))

/-- Whether the byte before a place belongs to a word. -/
def wordBefore (s : Subject) (n : Nat) : Bool :=
  match n with
  | 0 => false
  | n + 1 => (s.bytes[n]?.map isWordByte).getD false

/-- Whether the byte after a place belongs to a word. -/
def wordAfter (s : Subject) (n : Nat) : Bool :=
  (s.bytes[n]?.map isWordByte).getD false

/-- Whether a place is as demanded. -/
def isAt (s : Subject) (n : Nat) : Anchor → Bool
  | .lineStart => n = 0 || (s.lines && s.bytes[n - 1]? = some 0x0A)
  | .lineEnd => n = s.bytes.size || (s.lines && s.bytes[n]? = some 0x0A)
  | .textStart => n = 0
  | .textEnd => n = s.bytes.size
  | .wordStart => !s.wordBefore n && s.wordAfter n
  | .wordEnd => s.wordBefore n && !s.wordAfter n
  | .wordEdge => s.wordBefore n != s.wordAfter n
  | .noWordEdge => s.wordBefore n == s.wordAfter n

/-- Whether two parts of the text are the same. -/
def sameParts (s : Subject) (a b : Nat) : Nat → Bool
  | 0 => true
  | n + 1 =>
    match s.bytes[a]?, s.bytes[b]? with
    | some x, some y => s.alike x y && sameParts s (a + 1) (b + 1) n
    | _, _ => false

end Subject

/-- Places of which no two have the same position; of those that do, the first is kept. -/
def distinct (places : List Place) : List Place :=
  go places []
where
  /-- Goes through the places; positions that have been passed are known. -/
  go : List Place → List Nat → List Place
    | [], _ => []
    | p :: rest, seen =>
      if seen.contains p.position then go rest seen else p :: go rest (p.position :: seen)

/-- All places that repetitions of a step lead to, from those after most of them on, or after
fewest. Each place is passed once. The second part of the result is the positions that have been
passed. -/
def closure (step : Place → List Place) (most : Bool) :
    Nat → Place → List Nat → List Place × List Nat
  | 0, p, seen => ([p], seen)
  | fuel + 1, p, seen =>
    let (found, seen) := (step p).foldl (fun (acc : List Place × List Nat) q =>
      if acc.2.contains q.position then acc
      else
        let (more, seen) := closure step most fuel q (q.position :: acc.2)
        (acc.1 ++ more, seen)) ([], seen)
    (if most then found ++ [p] else p :: found, seen)

/-- All places that a number of repetitions of a step leads to: at least so many, and at most if
there is a bound. Those after most of them come first, or those after fewest. -/
def repetitions (step : Place → List Place) (size : Nat) (preferMost : Bool) (least : Nat)
    (most : Option Nat) (p : Place) : List Place :=
  let first := (List.range least).foldl (fun ps _ => distinct (ps.flatMap step)) [p]
  match most with
  | none =>
    distinct (first.flatMap fun p => (closure step preferMost (size + 1) p [p.position]).1)
  | some most =>
    (List.range (most - least)).foldl
      (fun (all : List Place × List Place) _ =>
        let next := distinct (all.2.flatMap step)
        (distinct (if preferMost then next ++ all.1 else all.1 ++ next), next)) (first, first) |>.1

/-- All places that an expression leads to from a place, with those that are preferred first. -/
def places (s : Subject) : Regex → Place → List Place
  | empty, p => [p]
  | byte b, p =>
    match s.bytes[p.position]? with
    | some x => if s.alike x b then [{ p with position := p.position + 1 }] else []
    | none => []
  | any, p =>
    match s.bytes[p.position]? with
    | some _ => [{ p with position := p.position + 1 }]
    | none => []
  | oneOf negated ranges, p =>
    match s.bytes[p.position]? with
    | some x =>
      if s.contains ranges x != negated then [{ p with position := p.position + 1 }] else []
    | none => []
  | anchor a, p => if s.isAt p.position a then [p] else []
  | group n body, p =>
    (places s body p).map fun q =>
      { q with parts := (n, p.position, q.position) :: q.parts.filter (·.1 ≠ n) }
  | same n, p =>
    match p.parts.lookup n with
    | some (a, b) =>
      if s.sameParts a p.position (b - a) then [{ p with position := p.position + (b - a) }] else []
    | none => []
  | .then a b, p => distinct ((places s a p).flatMap (places s b))
  | either a b, p => distinct (places s a p ++ places s b p)
  | repeated body least most, p => repetitions (places s body) s.bytes.size true least most p
  | lazily body least most, p => repetitions (places s body) s.bytes.size false least most p
  | firm body, p => (places s body p).take 1
  | beside ahead wanted body, p =>
    let found := if ahead then !(places s body p).isEmpty
      else (List.range (p.position + 1)).any fun n =>
        (places s body ⟨n, p.parts⟩).any fun q => q.position = p.position
    if found = wanted then [p] else []
  | folded folds body, p => places { s with folds := folds } body p
  | begin, p => [{ p with parts := (0, p.position, p.position) :: p.parts.filter (·.1 ≠ 0) }]

/-- The match of an expression that begins at a place, the longest one. -/
def matchAt (s : Subject) (r : Regex) (start : Nat) : Option Place :=
  (places s r ⟨start, []⟩).foldl (fun best p =>
    match best with
    | none => some p
    | some b => if b.position < p.position then some p else best) none

/-- The first match of an expression that begins at one of some places: where it begins and the
place that it leads to. -/
def search (s : Subject) (r : Regex) : Nat → Nat → Option (Nat × Place)
  | 0, _ => none
  | count + 1, start =>
    match matchAt s r start with
    | some p => some (start, p)
    | none => search s r count (start + 1)

/-- The first match of an expression that begins at a place or after it. -/
def find (s : Subject) (r : Regex) (start : Nat) : Option (Nat × Place) :=
  search s r (s.bytes.size + 1 - start) start

end Regex

end CommandShell.Text
