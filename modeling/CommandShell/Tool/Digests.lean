import CommandShell.Text.WideDigest
import CommandShell.Tool.Input
import CommandShell.Tool.Number
import CommandShell.Tool.Words

/-!
# Tools that check contents

Digests of files are written with the names of the files, and what was written so can be checked
later. Simpler numbers that are computed from contents are written with the sizes of the files.
-/

namespace CommandShell.Tool

open Work Text

namespace Digests

/-- A way to compute digests. -/
structure Algorithm where
  /-- The name that it is asked for by. -/
  word : String
  /-- Its name. -/
  name : String
  /-- The number of bytes of a digest, and of shorter ones if it can be asked for them. -/
  size : Nat
  /-- Whether shorter digests can be asked for. -/
  shortens : Bool
  /-- The digest of a content, with so many bytes. -/
  apply : Nat → Bytes → Bytes

/-- A way to compute digests of one size. -/
def Algorithm.fixed (word name : String) (size : Nat) (apply : Bytes → Bytes) : Algorithm :=
  ⟨word, name, size, false, fun _ => apply⟩

/-- The digest of 128 bits. -/
def md5 : Algorithm := .fixed "md5" "MD5" 16 Digest.md5

/-- The digest of 160 bits. -/
def sha1 : Algorithm := .fixed "sha1" "SHA1" 20 Digest.sha1

/-- The digest of 224 bits. -/
def sha224 : Algorithm := .fixed "sha224" "SHA224" 28 Digest.sha224

/-- The digest of 256 bits. -/
def sha256 : Algorithm := .fixed "sha256" "SHA256" 32 Digest.sha256

/-- The digest of 384 bits. -/
def sha384 : Algorithm := .fixed "sha384" "SHA384" 48 WideDigest.sha384

/-- The digest of 512 bits. -/
def sha512 : Algorithm := .fixed "sha512" "SHA512" 64 WideDigest.sha512

/-- The digest of any length. -/
def blake2b : Algorithm := ⟨"blake2b", "BLAKE2b", 64, true, WideDigest.blake2b⟩

/-- All ways to compute digests. -/
def algorithms : List Algorithm :=
  [md5, sha1, sha224, sha256, sha384, sha512, blake2b, .fixed "sm3" "SM3" 32 Digest.sm3]

/-- A name in which what would break a line is escaped, and whether that was necessary. -/
def escapedName (name : Bytes) : Bytes × Bool :=
  let text := name.flatMap fun b =>
    if b = 0x5C then utf8 "\\\\" else if b = 0x0A then utf8 "\\n"
    else if b = 0x0D then utf8 "\\r" else [b]
  (text, text ≠ name)

/-- Writes a line at once. Output that is not taken is a failure without a reason. -/
def putNow (bytes : Bytes) : Work Unit := do
  put bytes
  let _ ← flush

/-! #### Lines of digests -/

/-- What a line of digests says. -/
structure Line where
  /-- How the digest was computed. -/
  algorithm : Algorithm
  /-- The digest. -/
  digits : Bytes
  /-- The name of the file. -/
  name : Bytes

/-- A name without escapes. -/
def unescaped : Bytes → Bytes
  | 0x5C :: 0x6E :: rest => 0x0A :: unescaped rest
  | 0x5C :: 0x72 :: rest => 0x0D :: unescaped rest
  | 0x5C :: 0x5C :: rest => 0x5C :: unescaped rest
  | b :: rest => b :: unescaped rest
  | [] => []

/-- Whether a byte is a blank. -/
def isBlank (b : UInt8) : Bool :=
  b = 0x20 || b = 0x09

/-- What a line says that begins with the name of a way to compute digests. -/
def tagged? (known : List Algorithm) (line : Bytes) : Option Line := do
  let d ← known.find? fun d => (utf8 d.name).isPrefixOf line
  let rest := line.drop d.name.length
  let (size, rest) ← match rest with
    | 0x2D :: more =>
      let digits := more.takeWhile Amount.isDigit
      let bits := Amount.count digits
      if d.shortens ∧ 0 < bits ∧ bits % 8 = 0 ∧ bits ≤ 8 * d.size then
        some (bits / 8, more.drop digits.length)
      else none
    | _ => some (d.size, rest)
  let rest := match rest with
    | 0x20 :: more => more
    | _ => rest
  match rest with
  | 0x28 :: body =>
    let back := body.reverse.takeWhile (· ≠ 0x29)
    let digits := back.reverse.dropWhile isBlank
    match digits with
    | 0x3D :: digits =>
      let digits := digits.dropWhile isBlank
      let name := body.take (body.length - back.length - 1)
      if back.length < body.length ∧ digits.length = 2 * size ∧
          digits.all (fun b => (hexDigit? b).isSome) then
        some ⟨{ d with size := size }, digits, name⟩
      else none
    | _ => none
  | _ => none

/-- What a line says that begins with a digest. -/
def plain? (d : Algorithm) (line : Bytes) : Option Line :=
  let digits := line.takeWhile fun b => (hexDigit? b).isSome
  let size := digits.length / 2
  let fits := if d.shortens then 0 < size ∧ size ≤ d.size else size = d.size
  if digits.length % 2 ≠ 0 ∨ !fits then none
  else
    let line? := fun (name : Bytes) => if name = [] then none else
      some (⟨{ d with size := size }, digits, name⟩ : Line)
    match line.drop digits.length with
    | b :: mark :: name =>
      if !isBlank b then none
      else if (mark = 0x20 ∨ mark = 0x2A) ∧ name ≠ [] then line? name
      else line? (mark :: name)
    | _ => none

/-- What a line says; it may begin with the name of one of some ways to compute digests, or with a
digest that was computed in one way. -/
def lineOf? (known : List Algorithm) (d : Option Algorithm) (line : Bytes) : Option Line :=
  let body := line.dropWhile isBlank
  let (body, escaped) := match body with
    | 0x5C :: rest => (rest, true)
    | _ => (body, false)
  let found := (tagged? known body).or (d.bind fun d => plain? d body)
  if escaped then found.map fun l => { l with name := unescaped l.name } else found

/-! #### Checking -/

/-- How digests are checked, and what is said while that is done. -/
structure Manner where
  /-- What a line says. -/
  read : Bytes → Option Line
  /-- What lines of digests are called. -/
  kind : String
  /-- Nothing is said. -/
  silent : Bool
  /-- Nothing of files that are as they should be. -/
  quiet : Bool
  /-- Lines that are no digests. -/
  warns : Bool
  /-- Such lines are a failure. -/
  strict : Bool
  /-- Files that are not there do not matter. -/
  ignoresMissing : Bool

/-- What was found while digests were checked. -/
structure Tally where
  /-- Lines that are digests. -/
  proper : Nat
  /-- Lines that are not. -/
  improper : Nat
  /-- Files that could not be read. -/
  unread : Nat
  /-- Files with other digests. -/
  different : Nat
  /-- Files that are as they should be. -/
  matching : Nat

/-- Checks a line. -/
def checkLine (m : Manner) (source : Bytes) (number : Nat) (t : Tally) (line : Bytes) :
    Work Tally := do
  if line = [] ∨ line.head? = some 0x23 then return t
  match m.read line with
  | none =>
    if m.warns then
      say (Quote.name source ++ utf8 s!": {number}: improperly formatted {m.kind} checksum line")
    return { t with improper := t.improper + 1 }
  | some l =>
    let t := { t with proper := t.proper + 1 }
    let report : String → Work Unit := fun what => do
      if !m.silent then
        let (text, escaped) := escapedName l.name
        putNow ((if escaped then [0x5C] else []) ++ text ++ utf8 (": " ++ what ++ "\n"))
    match ← contentOf l.name with
    | .error e =>
      if m.ignoresMissing ∧ e = .noEntry then return t
      complainOf (Quote.name l.name) e
      report "FAILED open or read"
      return { t with unread := t.unread + 1 }
    | .ok content =>
      let d := l.algorithm
      if Digest.hexadecimal (d.apply d.size content) = l.digits.map lowered then
        if !m.quiet then report "OK"
        return { t with matching := t.matching + 1 }
      else
        report "FAILED"
        return { t with different := t.different + 1 }
where
  /-- A digit in lower case. -/
  lowered (b : UInt8) : UInt8 :=
    if 0x41 ≤ b ∧ b ≤ 0x5A then b + 0x20 else b

/-- Checks the lines of a file. -/
def checkFile (m : Manner) (name : Bytes) : Work Unit := do
  let source := if isInput name then utf8 "standard input" else name
  match ← contentOf name with
  | .error e =>
    if e = .isDirectory then complain (Quote.name source ++ utf8 ": read error")
    else complainOf (Quote.name source) e
  | .ok text =>
    let lines := (linesOf 0x0A text).map (·.bytes)
    let t ← lines.zipIdx.foldlM (fun t l => checkLine m source (l.2 + 1) t l.1)
      (⟨0, 0, 0, 0, 0⟩ : Tally)
    if t.proper = 0 then
      complain (Quote.name source ++ utf8 ": no properly formatted checksum lines found")
    else
      let warning : Nat → String → String → Work Unit := fun n one many => do
        if n ≠ 0 ∧ !m.silent then
          say (utf8 s!"WARNING: {n} {if n = 1 then one else many}")
      warning t.improper "line is improperly formatted" "lines are improperly formatted"
      warning t.unread "listed file could not be read" "listed files could not be read"
      warning t.different "computed checksum did NOT match" "computed checksums did NOT match"
      if m.ignoresMissing ∧ t.matching = 0 then
        complain (Quote.name source ++ utf8 ": no file was verified")
    if t.unread ≠ 0 ∨ t.different ≠ 0 ∨ (m.strict ∧ t.improper ≠ 0) then fault 1

/-! #### The tools -/

/-- The options that say how digests are checked. -/
def checkSwitches : List Switch :=
  [.flag "c" "check", .flag "" "ignore-missing", .flag "" "quiet", .flag "" "status",
   .flag "" "strict", .flag "w" "warn"]

/-- What is said while digests are checked, according to options one after another. -/
def loudness (f : Options.Found) : Option String :=
  f.last? ["quiet", "status", "w"]

/-- Options that mean nothing unless digests are checked are a mistake. -/
def refuseChecking (f : Options.Found) : Work Unit := do
  let given := fun (key : String) => loudness f = some key
  for (has, word) in [(f.has "ignore-missing", "ignore-missing"), (given "status", "status"),
      (given "w", "warn"), (given "quiet", "quiet"), (f.has "strict", "strict")] do
    if has then
      misused 1 (utf8 ("the --" ++ word ++ " option is meaningful only when verifying checksums"))

/-- Checks the lines of files. -/
def checkAll (f : Options.Found) (kind : String) (read : Bytes → Option Line) : Work Unit := do
  let mode := loudness f
  let m : Manner :=
    { read := read, kind := kind, silent := mode = some "status"
      quiet := mode = some "quiet" || mode = some "status", warns := mode = some "w"
      strict := f.has "strict", ignoresMissing := f.has "ignore-missing" }
  for name in inputsOf f.operands do
    checkFile m name

/-- Writes the digest of a file, with the name of the way to compute it or with a mark. -/
def write (d : Algorithm) (tagged : Bool) (full : Nat) (mark ending : UInt8) (name : Bytes) :
    Work Unit := do
  match ← contentOf name with
  | .error e => complainOf (Quote.name name) e
  | .ok content =>
    let digits := Digest.hexadecimal (d.apply d.size content)
    let (text, escaped) := if ending = 0 then (name, false) else escapedName name
    let front : Bytes := if escaped then [0x5C] else []
    let size := if d.size < full then utf8 s!"-{8 * d.size}" else []
    let line :=
      if tagged then utf8 d.name ++ size ++ utf8 " (" ++ text ++ utf8 ") = " ++ digits
      else digits ++ [0x20, mark] ++ text
    putNow (front ++ line ++ [ending])

/-- The size of the digests that an option asks for, as a number of bits. -/
def sizeOf (d : Algorithm) (text : Bytes) : Work Nat := do
  let bits ← amount "" 1 "invalid length" text
  let wrong := utf8 "invalid length: " ++ Quote.plain text
  if bits % 8 ≠ 0 then
    say wrong
    fail 1 (utf8 "length is not a multiple of 8")
  if 8 * d.size < bits then
    say wrong
    fail 1 (utf8 s!"maximum digest length for '{d.name}' is {8 * d.size} bits")
  return bits

/-- Writes the digests of files, or checks them. -/
def tool (d : Algorithm) (args : List Bytes) : Work Unit := do
  let shortening := if d.shortens then [Switch.valued "l" "length"] else []
  let f ← Options.read (checkSwitches ++ shortening ++ [.flag "b" "binary", .flag "" "tag",
    .flag "t" "text", .flag "z" "zero"]) true 1 args
  let bits ← match f.value? "l" with
    | some text => sizeOf d text
    | none => pure 0
  let checks := f.has "c"
  let manner := f.last? ["b", "t", "tag"]
  if f.has "tag" ∧ manner = some "t" then
    misused 1 (utf8 "--tag does not support --text mode")
  if checks then
    if f.has "z" then
      misused 1 (utf8 "the --zero option is not supported when verifying checksums")
    if f.has "tag" then
      misused 1 (utf8 "the --tag option is meaningless when verifying checksums")
    if manner.isSome then
      misused 1 (utf8 "the --binary and --text options are meaningless when verifying checksums")
    checkAll f d.name (lineOf? [d] (some d))
  else
    refuseChecking f
    let used := if bits = 0 then d else { d with size := bits / 8 }
    for name in inputsOf f.operands do
      write used (f.has "tag") d.size (if manner = some "b" then 0x2A else 0x20)
        (if f.has "z" then 0 else 0x0A) name

end Digests

/-- Writes numbers computed from the contents of files, with names unless there is only the
input. -/
def summing (amounts : Bytes → Bytes) (ending : UInt8) (operands : List Bytes) : Work Unit := do
  for name in inputsOf operands do
    match ← contentOf name with
    | .error e => complainOf (Quote.name name) e
    | .ok content =>
      let tail := if operands = [] then [] else 0x20 :: name
      Digests.putNow (amounts content ++ tail ++ [ending])

/-- The sum of a content that is turned before each byte, and its size, as they are written. -/
def turningLine (content : Bytes) : Bytes :=
  let padded := fun (zero : Char) (n : Nat) =>
    let digits := toString n
    String.ofList (List.replicate (5 - digits.length) zero) ++ digits
  utf8 (padded '0' (Digest.turningSum content) ++ " " ++
    padded ' ' ((content.length + 1023) / 1024))

/-- The sum of a content and its size, as they are written. -/
def foldedLine (content : Bytes) : Bytes :=
  utf8 s!"{Digest.foldedSum content} {(content.length + 511) / 512}"

/-- Writes remainders and sizes of files, or their digests, or checks these. -/
def cksum (args : List Bytes) : Work Unit := do
  let f ← Options.read (Digests.checkSwitches ++ [.valued "a" "algorithm", .flag "" "debug",
    .valued "l" "length", .flag "" "tag", .flag "" "untagged", .flag "z" "zero"]) true 1 args
  let words := ["bsd", "sysv", "crc"] ++ Digests.algorithms.map (·.word)
  let word ← match f.value? "a" with
    | none => pure none
    | some text =>
      match words.find? fun w => utf8 w = text with
      | some w => pure (some w)
      | none =>
        say (utf8 "invalid argument " ++ Quote.shell text ++ utf8 " for '--algorithm'")
        emit (utf8 "Valid arguments are:\n")
        for w in words do emit (utf8 ("  - '" ++ w ++ "'\n"))
        refer 1
  let d := Digests.algorithms.find? fun d => some d.word = word
  let bits ← match f.value? "l" with
    | none => pure 0
    | some text => Digests.sizeOf Digests.blake2b text
  if bits ≠ 0 ∧ !d.any (·.shortens) then
    fail 1 (utf8 "--length is only supported with --algorithm=blake2b")
  let checks := f.has "c"
  if checks then
    if word.isSome ∧ d.isNone then
      fail 1 (utf8 "--check is not supported with --algorithm=\x7bbsd,sysv,crc\x7d")
    if f.has "z" then
      misused 1 (utf8 "the --zero option is not supported when verifying checksums")
    let known := match d with
      | some d => [d]
      | none => Digests.algorithms
    Digests.checkAll f ((d.map (·.name)).getD "CRC") (Digests.lineOf? known d)
  else
    Digests.refuseChecking f
    let ending : UInt8 := if f.has "z" then 0 else 0x0A
    match d with
    | some d =>
      let used := if bits = 0 then d else { d with size := bits / 8 }
      for name in inputsOf f.operands do
        Digests.write used (f.last? ["tag", "untagged"] ≠ some "untagged") d.size
          (if f.has "tag" then 0x2A else 0x20) ending name
    | none =>
      let line := match word with
        | some "bsd" => turningLine
        | some "sysv" => foldedLine
        | _ => fun content => utf8 s!"{Digest.remainder content} {content.length}"
      summing line ending f.operands

/-- Writes sums and sizes of files. -/
def sum (args : List Bytes) : Work Unit := do
  let f ← Options.read [.flag "r" "", .flag "s" "sysv"] true 1 args
  summing (if f.last? ["r", "s"] = some "s" then foldedLine else turningLine) 0x0A f.operands

end CommandShell.Tool
