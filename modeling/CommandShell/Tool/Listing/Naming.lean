import CommandShell.Machine.Call
import CommandShell.Tool.Quote

/-!
# Names in listings

A name is written as it is, or between quotation marks, or with escapes for what cannot be shown. A
mark after it tells what it is the name of.
-/

namespace CommandShell.Tool.Listing

/-- How a name is quoted. -/
inductive Quoting where
  /-- It is left as it is. -/
  | literal
  /-- It is put into marks as for a shell, always or if it needs them, with escapes for what cannot
  be shown or without. -/
  | shell (always escapes : Bool)
  /-- It is put into double quotation marks, always or if it needs them. -/
  | double (always : Bool)
  /-- It is written with escapes, without marks. -/
  | escape
  /-- It is put into marks of a kind. -/
  | between (mark : UInt8)
deriving DecidableEq

namespace Quoting

/-- The words for ways to quote. -/
def words : List (String × Quoting) :=
  [("literal", literal), ("shell", shell false false), ("shell-always", shell true false),
   ("shell-escape", shell false true), ("shell-escape-always", shell true true),
   ("c", double true), ("c-maybe", double false), ("escape", escape), ("locale", between 0x27),
   ("clocale", between 0x22)]

/-- A name between marks, with a backslash in front of these and of backslashes. -/
def inMarks (mark : UInt8) (name : Bytes) : Bytes :=
  let body := name.flatMap fun b =>
    if b = mark ∨ b = 0x5C then [0x5C, b] else if Quote.isShown b then [b] else Quote.escaped b
  mark :: body ++ [mark]

/-- A name as for a shell, where nothing is escaped. -/
def forShell (name : Bytes) : Bytes :=
  if name.contains 0x27 ∧ !name.contains 0x22 ∧ !name.contains 0x5C ∧ !name.contains 0x24 ∧
      !name.contains 0x60 ∧ !name.contains 0x21 then
    0x22 :: name ++ [0x22]
  else
    0x27 :: (name.flatMap fun b => if b = 0x27 then utf8 "'\\''" else [b]) ++ [0x27]

/-- A name as it is written. -/
def write (q : Quoting) (name : Bytes) : Bytes :=
  match q with
  | literal => name
  | shell always true => if always then Quote.shell name else Quote.name name
  | shell always false => if always ∨ Quote.isSpecial name then forShell name else name
  | double always =>
    let marked := inMarks 0x22 name
    if always ∨ marked.length ≠ name.length + 2 then marked else name
  | escape =>
    name.flatMap fun b =>
      if b = 0x20 ∨ b = 0x5C then [0x5C, b] else if Quote.isShown b then [b] else Quote.escaped b
  | between mark => inMarks mark name

/-- Whether names without marks are written below each other with those that have them. -/
def aligns : Quoting → Bool
  | shell false _ => true
  | double false => true
  | _ => false

end Quoting

/-- Which entries have a mark after their names. -/
inductive Marking where
  /-- None. -/
  | nothing
  /-- Directories. -/
  | directories
  /-- Links and pipes as well. -/
  | kinds
  /-- Programs as well. -/
  | all
deriving DecidableEq

/-- The mark after the name of an entry, as its facts are known. -/
def Marking.mark (m : Marking) (kind : Kind) (facts : Option Facts) : Bytes :=
  let others := m = .kinds ∨ m = .all
  match kind with
  | .directory => if m = .nothing then [] else [slash]
  | .link => if others then [0x40] else []
  | .pipe => if others then [0x7C] else []
  | .file => if m = .all ∧ facts.any fun f => f.mode &&& 0o111 ≠ 0 then [0x2A] else []
  | .device => []

end CommandShell.Tool.Listing
