import CommandShell.Text.Radix
import CommandShell.Tool.Input
import CommandShell.Tool.Number
import CommandShell.Tool.Words

/-!
# Tools that write bytes as characters

The content of a file is written with characters that every system has, or what was written so is
read again.
-/

namespace CommandShell.Tool

open Work

namespace Encoding

open Text

/-- How contents are written as characters. -/
inductive Code where
  /-- With the characters of an alphabet. -/
  | radix (r : Radix)
  /-- With eighty-five characters. -/
  | eightyFive

/-- Whether a character may stand in a content that was written so. -/
def Code.uses (c : Code) (b : UInt8) : Bool :=
  match c with
  | radix r => (r.value? b).isSome || (r.marks && b = Radix.mark)
  | eightyFive => Radix.eightyFive.contains b

/-- The options of all tools that do this. -/
def switches : List Switch :=
  [.flag "d" "decode", .flag "D" "", .flag "i" "ignore-garbage", .valued "w" "wrap"]

/-- The width of lines that is asked for. -/
def widthOf (f : Options.Found) : Work Nat :=
  match f.value? "w" with
  | none => return 76
  | some text => do
    if text = [] ∨ !text.all Amount.isDigit then
      fail 1 (utf8 "invalid wrap size: " ++ Quote.plain text)
    return Amount.count text

/-- Writes a file with characters, or what such a file stands for. -/
def run (c : Code) (f : Options.Found) : Work Unit := do
  let width ← widthOf f
  match f.operands with
  | _ :: extra :: _ => extraOperand 1 extra
  | _ => pure ()
  let name := f.operands.headD [0x2D]
  let fd ← match ← openInput name with
    | .ok fd => pure fd
    | .error e => fail 1 (Quote.name name ++ utf8 (": " ++ e.libraryText))
  let (content, s) ← (Source.ofOpen fd).rest
  let check : Work Unit := do
    match s.failure with
    | some e => fail 1 (utf8 ("read error: " ++ e.libraryText))
    | none => return ()
  if f.has "d" then
    let text := content.filter fun b => b ≠ 0x0A && (!f.has "i" || c.uses b)
    let (bytes, fine) := match c with
      | .radix r => r.decode text
      | .eightyFive => Radix.decodeEightyFive (text.length + 1) text
    put bytes
    check
    if !fine then fail 1 (utf8 "invalid input")
  else
    check
    let chars ← match c with
      | .radix r => pure (r.encode content)
      | .eightyFive =>
        match Radix.encodeEightyFive (content.length + 1) content with
        | some chars => pure chars
        | none => fail 1 (utf8 "invalid input (length must be multiple of 4 characters)")
    put (Radix.wrapped width (chars.length + 1) chars)

/-- The codes that can be asked for by name. -/
def codes : List (String × Code) :=
  [("base64", .radix .sixtyFour), ("base64url", .radix .sixtyFourNamed),
   ("base32", .radix .thirtyTwo), ("base32hex", .radix .thirtyTwoOrdered),
   ("base16", .radix .sixteen), ("base2msbf", .radix .two), ("base2lsbf", .radix .twoLowFirst),
   ("z85", .eightyFive)]

end Encoding

/-- Writes a file with 64 characters, or what such a file stands for. -/
def base64 (args : List Bytes) : Work Unit := do
  Encoding.run (.radix .sixtyFour) (← Options.read Encoding.switches true 1 args)

/-- Writes a file with 32 characters, or what such a file stands for. -/
def base32 (args : List Bytes) : Work Unit := do
  Encoding.run (.radix .thirtyTwo) (← Options.read Encoding.switches true 1 args)

/-- Writes a file with characters as they are asked for, or what such a file stands for. -/
def basenc (args : List Bytes) : Work Unit := do
  let named := Encoding.codes.map fun c => Switch.flag "" c.1
  let f ← Options.read (Encoding.switches ++ named) true 1 args
  match (f.last? (Encoding.codes.map (·.1))).bind fun word => Encoding.codes.lookup word with
  | some c => Encoding.run c f
  | none => misused 1 (utf8 "missing encoding type")

end CommandShell.Tool
