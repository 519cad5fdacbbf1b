import CommandShell.Bytes

/-!
# Texts in complaints

A text is quoted in a complaint so that its ends can be seen, and often so that a shell would read
it back. Bytes that cannot be shown are written as escapes.
-/

namespace CommandShell.Tool.Quote

/-- Whether a byte can be shown. -/
def isShown (b : UInt8) : Bool :=
  0x20 ≤ b && b ≤ 0x7E

/-- A byte as an escape. -/
def escaped (b : UInt8) : Bytes :=
  match b with
  | 0x07 => utf8 "\\a"
  | 0x08 => utf8 "\\b"
  | 0x09 => utf8 "\\t"
  | 0x0A => utf8 "\\n"
  | 0x0B => utf8 "\\v"
  | 0x0C => utf8 "\\f"
  | 0x0D => utf8 "\\r"
  | _ => [0x5C, 0x30 + b / 64, 0x30 + b / 8 % 8, 0x30 + b % 8]

/-- A text between quotation marks, with a backslash in front of marks and backslashes. -/
def plain (text : Bytes) : Bytes :=
  let body := text.flatMap fun b =>
    if b = 0x27 ∨ b = 0x5C then [0x5C, b] else if isShown b then [b] else escaped b
  0x27 :: body ++ [0x27]

/-- Whether a shell would not take a text as it is. -/
def isSpecial (text : Bytes) : Bool :=
  text.isEmpty ||
    text.any (fun b => !isShown b || (utf8 "?\\ !\"$&()*;<=>[^`|'").contains b) ||
    text.head? = some 0x23 || text.head? = some 0x7E || text = [0x7B] || text = [0x7D]

/-- Whether a text with apostrophes can be put into the other kind of quotation marks. -/
def isGentle (text : Bytes) : Bool :=
  text.all fun b =>
    isShown b && !(utf8 "?\\!\"$&()*;<=>[^`|").contains b

/-- The pieces of a text in quotation marks: bytes that are shown, and runs of escapes in marks of
their own. -/
def shellBody : Bool → Bytes → Bytes
  | _, [] => []
  | escaping, b :: rest =>
    if b = 0x27 then [0x27, 0x5C, 0x27, 0x27] ++ shellBody false rest
    else if isShown b then (if escaping then [0x27, 0x27] else []) ++ b :: shellBody false rest
    else (if escaping then [] else [0x27, 0x24, 0x27]) ++ escaped b ++ shellBody true rest

/-- A text as a shell would read it back, always in quotation marks. A text with an apostrophe is
gone through twice, and an escape at its end counts as open when that begins again. -/
def shell (text : Bytes) : Bytes :=
  if text.contains 0x27 ∧ isGentle text then 0x22 :: text ++ [0x22]
  else
    let ends := (text.getLast?.map fun b => !isShown b).getD false
    0x27 :: shellBody (text.contains 0x27 && ends) text ++ [0x27]

/-- A text as a shell would read it back, in quotation marks if it needs them. -/
def name (text : Bytes) : Bytes :=
  if isSpecial text then shell text else text

end CommandShell.Tool.Quote
