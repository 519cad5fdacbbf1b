/-!
# Diagnostics of the interpreter

The interpreter notes what it does in records of five levels. Which levels are kept is the choice of
whoever starts it.
-/

namespace CommandShell

/-- How important a record is. -/
inductive Level where
  | error | warn | info | debug | trace
deriving DecidableEq, Repr

namespace Level

/-- The levels from the most to the least important one. -/
def rank : Level → Nat
  | error => 1
  | warn => 2
  | info => 3
  | debug => 4
  | trace => 5

/-- The letter that marks a record of a level. -/
def tag : Level → Char
  | error => 'E'
  | warn => 'W'
  | info => '*'
  | debug => 'D'
  | trace => 'T'

end Level

/-- The least important level that is kept, or `none` if no record is. -/
structure Verbosity where
  /-- The least important level that is kept. -/
  limit : Option Level
deriving DecidableEq, Repr

namespace Verbosity

/-- No record is kept. -/
def off : Verbosity := ⟨none⟩

/-- Records as important as a level are kept. -/
def upTo (l : Level) : Verbosity := ⟨some l⟩

/-- Whether records of a level are kept. -/
def admits (v : Verbosity) (l : Level) : Bool :=
  match v.limit with
  | none => false
  | some limit => l.rank ≤ limit.rank

end Verbosity

/-- A note of what the interpreter did. -/
structure Record where
  /-- How important it is. -/
  level : Level
  /-- What it says. -/
  text : String
deriving DecidableEq, Repr

/-- The line that shows a record: the letter of its level in brackets, a blank and its text. -/
def Record.line (r : Record) : String :=
  "[" ++ r.level.tag.toString ++ "] " ++ r.text ++ "\n"

end CommandShell
