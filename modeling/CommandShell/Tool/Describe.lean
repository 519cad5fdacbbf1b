import CommandShell.Tool.Clock
import CommandShell.Tool.Permit

/-!
# Describing files

Facts about files are written as a format says, in which a percent sign and a letter stand for a
fact. What the system does not keep of a file is written as a question mark.
-/

namespace CommandShell.Tool

open Work Text

namespace Description

/-- A file that is described. -/
structure Subject where
  /-- Its name, as it was given. -/
  name : Bytes
  /-- The facts. -/
  facts : Facts
  /-- Where it leads, if it is a link. -/
  goal : Option Bytes
  /-- The number of its names, as far as it is known. -/
  names : Nat
  /-- How names are quoted. -/
  quote : Bytes → Bytes

/-- What a file is, in words. -/
def kindName (f : Facts) : String :=
  match f.kind with
  | .file => if f.size = 0 then "regular empty file" else "regular file"
  | .directory => "directory"
  | .link => "symbolic link"
  | .device => "character special file"
  | .pipe => "fifo"

/-- What a file is, as a letter. -/
def kindLetter : Kind → UInt8
  | .file => 0x2D
  | .directory => 0x64
  | .link => 0x6C
  | .device => 0x63
  | .pipe => 0x70

/-- What a file is, as bits above those of its permissions. -/
def kindBits : Kind → Nat
  | .file => 0o100000
  | .directory => 0o040000
  | .link => 0o120000
  | .device => 0o020000
  | .pipe => 0o010000

/-- What a file is and its permissions, as letters. -/
def letters (f : Facts) : Bytes :=
  kindLetter f.kind :: Permission.letters f.mode

/-- The number of units of 4096 bytes that a file takes. -/
def units (f : Facts) : Nat :=
  match f.kind with
  | .file => (f.size + 4095) / 4096
  | .directory => 1
  | _ => 0

/-- The number of names that lead to a file, as far as it is known: a directory has its own, one in
itself and one in each directory below it. -/
def nameCount (path : Bytes) (f : Facts) : Work Nat := do
  if f.kind ≠ .directory then return f.names
  let listed : Except Errno (List (Name × Kind)) ← call (.children path)
  return 2 + (listed.toOption.getD []).countP (·.2 = .directory)

/-- The directives of a time that is shown in full. -/
def fullTime : Bytes := utf8 "%Y-%m-%d %H:%M:%S.%N %z"

/-- A time in seconds, with as many digits of its fraction as the precision says. -/
def secondsOf (f : Format) (time : Int) : Bytes :=
  let whole := utf8 (toString (time.fdiv Calendar.billion))
  let digits := Format.digits 10 false (time.fmod Calendar.billion).toNat
  let part := List.replicate (9 - digits.length) (0x30 : UInt8) ++ digits
  let plain := { f with precision := none }
  match f.precision with
  | none | some 0 => plain.text whole
  | some n =>
    plain.text (whole ++ 0x2E :: part.take n ++ List.replicate (n - 9) (0x30 : UInt8))

/-- The fact that a letter stands for, in a field. -/
def fact (s : Subject) (zone : Calendar.Zone) (f : Format) (letter : UInt8) : Bytes :=
  let number := fun (n : Nat) => f.unsigned 10 false n
  let text := fun (t : Bytes) => { f with zeros := false }.text t
  let moment := fun (time : Int) => text (Calendar.shown zone fullTime time)
  match letter with
  | 0x6E => text s.name
  | 0x4E =>
    text <| match s.goal with
      | some goal => s.quote s.name ++ utf8 " -> " ++ s.quote goal
      | none => s.quote s.name
  | 0x73 => number s.facts.size
  | 0x62 => number (units s.facts * 8)
  | 0x42 => number 512
  | 0x6F => number 4096
  | 0x61 => f.unsigned 8 false s.facts.mode
  | 0x66 => f.unsigned 16 false (kindBits s.facts.kind + s.facts.mode)
  | 0x41 => text (letters s.facts)
  | 0x46 => text (utf8 (kindName s.facts))
  | 0x68 => number s.names
  | 0x75 => number 0
  | 0x67 => number 0
  | 0x55 => text (utf8 "root")
  | 0x47 => text (utf8 "root")
  | 0x6D => text [slash]
  | 0x72 => number 0
  | 0x52 => number 0
  | 0x64 => number 1
  | 0x48 => number 0
  | 0x4C => number 1
  | 0x44 => f.unsigned 16 false 1
  | 0x69 => number s.facts.number
  | 0x74 => number 0
  | 0x54 => number 0
  | 0x77 => text (utf8 "-")
  | 0x57 => number 0
  | 0x78 => moment s.facts.accessed
  | 0x79 => moment s.facts.modified
  | 0x7A => moment s.facts.modified
  | 0x58 => secondsOf f s.facts.accessed
  | 0x59 => secondsOf f s.facts.modified
  | 0x5A => secondsOf f s.facts.modified
  | _ => utf8 "?"

/-- The field that a directive describes in front of its letter, and what follows. -/
def fieldOf (text : Bytes) : Format × Bytes :=
  let flags := text.takeWhile (utf8 "'-+ #0:").contains
  let f := flags.foldl Format.flag Format.plain
  let text := text.drop flags.length
  let width := text.takeWhile Amount.isDigit
  let f := f.setWidth (Amount.count width)
  match text.drop width.length with
  | 0x2E :: rest =>
    let digits := rest.takeWhile Amount.isDigit
    let after := rest.drop digits.length
    let precision := if digits = [] ∧ after.head?.any (utf8 "WXYZ").contains then 9
      else Amount.count digits
    (f.setPrecision precision, after)
  | rest => (f, rest)

/-- Writes a file as a format says. -/
def write (s : Subject) (zone : Calendar.Zone) (escapes : Bool) : Nat → Bytes → Work Unit
  | 0, _ => return ()
  | fuel + 1, format => do
    match format with
    | [] => return ()
    | 0x25 :: rest =>
      let (f, after) := fieldOf rest
      match after with
      | 0x25 :: more => do
        if more.length + 1 < rest.length then
          fail 1 (Quote.plain (format.take (format.length - more.length)) ++
            utf8 ": invalid directive")
        put [0x25]
        write s zone escapes fuel more
      | letter :: more =>
        let more := if letter = 0x48 ∨ letter = 0x4C then more.drop 1 else more
        put (fact s zone f letter)
        write s zone escapes fuel more
      | [] => put format
    | 0x5C :: rest =>
      if !escapes then
        put [0x5C]
        write s zone escapes fuel rest
      else
        match rest with
        | 0x78 :: more =>
          let digits := (more.take 2).takeWhile fun b => (hexDigit? b).isSome
          if digits = [] then
            say (utf8 "warning: unrecognized escape '\\x'")
            put [0x78]
          else
            put [UInt8.ofNat (digits.foldl (fun n b => n * 16 + (hexDigit? b).getD 0) 0)]
          write s zone escapes fuel (more.drop digits.length)
        | _ =>
          match escapeOf rest, rest with
          | some (b, more), _ =>
            put [b]
            write s zone escapes fuel more
          | none, 0x22 :: more =>
            put [0x22]
            write s zone escapes fuel more
          | none, b :: more =>
            say (utf8 "warning: unrecognized escape '\\" ++ [b] ++ utf8 "'")
            put [b]
            write s zone escapes fuel more
          | none, [] =>
            say (utf8 "warning: backslash at end of format")
            put [0x5C]
    | b :: rest =>
      put [b]
      write s zone escapes fuel rest

/-- The file of a name; a dash stands for the input. -/
def subjectOf (through : Bool) (quote : Bytes → Bytes) (name : Bytes) :
    Work (Except Errno Subject) := do
  let facts : Except Errno Facts ←
    if isInput name then call (.factsOf 0) else call (.facts name through)
  match facts with
  | .error e => return .error e
  | .ok f =>
    let names ← nameCount name f
    if f.kind = .link then
      let goal : Except Errno Bytes ← call (.linkContent name)
      return .ok ⟨name, f, goal.toOption, names, quote⟩
    else return .ok ⟨name, f, none, names, quote⟩

/-- How files are written if nothing else is asked for. -/
def usual : Bytes :=
  utf8 ("  File: %N\n  Size: %-10s\tBlocks: %-10b IO Block: %-6o %F\n" ++
    "Device: %Hd,%Ld\tInode: %-10i  Links: %h\n" ++
    "Access: (%04a/%10.10A)  Uid: (%5u/%8U)   Gid: (%5g/%8G)\n" ++
    "Access: %x\nModify: %y\nChange: %z\n Birth: %w\n")

/-- How files are written in short. -/
def terse : Bytes :=
  utf8 "%n %s %b %f %u %g %D %i %h %t %T %X %Y %Z %W %o\n"

end Description

/-- Writes facts about files. -/
def stat (args : List Bytes) : Work Unit := do
  let f ← Options.read [.valued "c" "format", .valued "" "printf", .flag "L" "dereference",
    .flag "f" "file-system", .flag "t" "terse", .valued "" "cached"] true 1 args
  if f.operands = [] then missingOperand 1
  let chosen := f.last? ["c", "printf"]
  let format := (chosen.bind f.value?).getD
    (if f.has "t" then Description.terse else Description.usual)
  let quote := if chosen.isSome then Quote.shell else Quote.name
  let escapes := chosen = some "printf"
  let zone ← zone
  for name in f.operands do
    match ← Description.subjectOf (f.has "L") quote name with
    | .error e =>
      if f.has "f" then complainAbout "cannot read file system information for" name e
      else complainAbout "cannot statx" name e
    | .ok s =>
      Description.write s zone escapes (format.length + 1) format
      if chosen = some "c" then put [0x0A]

end CommandShell.Tool
