import CommandShell.Tool.Directory

/-!
# Files and directories with new names

A template ends in some letters `X`, and others take their place, so that the name is one that
nothing has. The file is made along with its name and belongs to its maker alone.
-/

namespace CommandShell.Tool

open Work

namespace Temporary

/-- The letters that take the place of `X`. -/
def letters : Bytes :=
  utf8 "abcdefghijklmnopqrstuvwxyzABCDEFGHIJKLMNOPQRSTUVWXYZ0123456789"

/-- So many letters, chosen by a number. -/
def lettersFor : Nat → Nat → Bytes
  | 0, _ => []
  | count + 1, n =>
    letters.getD (n % letters.length) 0 ::
      lettersFor count ((n / letters.length + n * 7919) % 0xFFFFFFFB)

/-- A text in whose place something has to be put. -/
structure Template where
  /-- What stands in front. -/
  front : Bytes
  /-- The number of letters. -/
  count : Nat
  /-- What follows. -/
  back : Bytes

/-- The whole text, as it was given. -/
def Template.whole (t : Template) : Bytes :=
  t.front ++ List.replicate t.count 0x58 ++ t.back

/-- The parts of a text, whose letters end where those that follow begin. -/
def Template.ofText (text back : Bytes) : Template :=
  let count := (text.reverse.takeWhile (· = 0x58)).length
  ⟨text.take (text.length - count), count, back⟩

/-- A path for a template at which nothing stands, made into a file or a directory unless that is
only tried. -/
def make (t : Template) (directory dry : Bool) : Nat → Nat → Work (Except Errno Bytes)
  | 0, _ => return .error .alreadyExists
  | fuel + 1, n => do
    let path := t.front ++ lettersFor t.count n ++ t.back
    let made : Except Errno Unit ← if dry then do
        match ← call (.facts path false) with
        | .ok _ => pure (.error .alreadyExists)
        | .error e => pure (if e = .noEntry then .ok () else .error e)
      else if directory then do
        match ← call (.change (.makeDirectory path)) with
        | .ok () =>
          let _ ← call (.change (.setMode path (ModeClause.without 0o700 (← currentMask))))
          pure (.ok ())
        | .error e => pure (.error e)
      else do
        match ← call (.openFile path ⟨true, true, false, true, false, true⟩) with
        | .ok fd =>
          let _ ← call (.close fd)
          let _ ← call (.change (.setMode path (ModeClause.without 0o600 (← currentMask))))
          pure (.ok ())
        | .error e => pure (.error e)
    match made with
    | .ok () => return .ok path
    | .error e => if e = .alreadyExists then make t directory dry fuel (n + 1) else return .error e

end Temporary

/-- Makes a file or a directory with a new name. -/
def mktemp (args : List Bytes) : Work Unit := do
  let f ← Options.read [.flag "d" "directory", .flag "q" "quiet", .flag "u" "dry-run",
    .valued "p" "", ⟨"", "tmpdir", .optional⟩, .valued "" "suffix", .flag "t" "", .flag "V" ""]
    true 1 args
  if 1 < f.operands.length then misused 1 (utf8 "too many templates")
  let text := f.operands.headD (utf8 "tmp.XXXXXXXXXX")
  let named := f.given.reverse.find? fun g => g.key = "p" ∨ g.key = "tmpdir"
  let template ← match f.value? "suffix" with
    | some back =>
      if text.getLast? ≠ some 0x58 then
        fail 1 (utf8 "with --suffix, template " ++ Quote.plain text ++ utf8 " must end in X")
      pure (Temporary.Template.ofText text back)
    | none =>
      let back := if text.contains 0x58 then (text.reverse.takeWhile (· ≠ 0x58)).reverse else []
      pure (Temporary.Template.ofText (text.take (text.length - back.length)) back)
  if template.back.contains slash then
    fail 1 (utf8 "invalid suffix " ++ Quote.plain template.back ++
      utf8 ", contains directory separator")
  if template.count < 3 then
    fail 1 (utf8 "too few X's in template " ++ Quote.plain template.whole)
  let inDirectory := f.operands = [] || named.isSome || f.has "t"
  let set_ := (← setting? "TMPDIR").filter (· ≠ [])
  let usual := utf8 "/tmp"
  let wanted := (named.bind (·.value)).filter (· ≠ [])
  let template ← if !inDirectory then pure template
    else do
      if f.has "t" then
        if text.contains slash then
          fail 1 (utf8 "invalid template, " ++ Quote.plain template.whole ++
            utf8 ", contains directory separator")
      else if text.head? = some slash then
        fail 1 (utf8 "invalid template, " ++ Quote.plain template.whole ++
          utf8 "; with --tmpdir, it may not be absolute")
      let directory := if f.has "t" then set_.getD (wanted.getD usual)
        else wanted.getD (set_.getD usual)
      let directory := if directory.getLast? = some slash then directory else directory ++ [slash]
      pure { template with front := directory ++ template.front }
  let (pid, _) ← call .self
  let now : Nat ← call .time
  match ← Temporary.make template (f.has "d") (f.has "u") 0x10000 (now * 31 + pid * 7919) with
  | .ok path => putLine path
  | .error e =>
    if !f.has "q" then
      let what := if f.has "d" then "directory" else "file"
      complainOf (utf8 ("failed to create " ++ what ++ " via template ") ++
        Quote.plain template.whole) e
    fault 1

end CommandShell.Tool
