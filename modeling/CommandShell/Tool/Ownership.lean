import CommandShell.Tool.Number
import CommandShell.Tool.Words

/-!
# Changing owners

All files belong to the one user there is, and to the one group. Giving a file to somebody can fail
because nobody has that name, or because there is no such file; otherwise nothing changes.
-/

namespace CommandShell.Tool

open Work

namespace Ownership

/-- How owners are changed. -/
structure Manner where
  /-- What is changed, in words. -/
  what : String
  /-- The owner as it is written when a change is told. -/
  shown : Bytes
  /-- The owner that was asked for. -/
  wanted : Bytes
  /-- All that is in directories is changed as well. -/
  recursive : Bool
  /-- Most complaints are left out. -/
  silent : Bool
  /-- It is told what was done. -/
  verbose : Bool
  /-- Links themselves are changed. -/
  links : Bool

/-- Whether a text is the name or the number of the one user, or of a user that has a number
only. -/
def isKnown (text : Bytes) : Bool :=
  text = utf8 "root" || (text ≠ [] && text.all Amount.isDigit)

/-- Changes the owner of a file. -/
def change (m : Manner) : Nat → Bool → Bytes → Work Unit
  | 0, _, _ => return ()
  | fuel + 1, top, path => do
    let facts : Except Errno Facts ← call (.facts path (top && !m.links))
    match facts with
    | .error e =>
      let entry : Except Errno Facts ← call (.facts path false)
      if m.silent then fault 1
      else if entry.isOk then complainAbout "cannot dereference" path e
      else complainAbout "cannot access" path e
      if m.verbose then
        putLine (utf8 ("failed to change " ++ m.what ++ " of ") ++ Quote.shell path ++
          utf8 " to " ++ m.wanted)
    | .ok f =>
      if m.recursive ∧ f.kind = .directory then
        match ← call (.children path) with
        | .error e => complainAbout "cannot read directory" path e
        | .ok children =>
          for c in children do
            change m fuel false (below path c.1)
      if m.verbose then
        putLine (utf8 (m.what ++ " of ") ++ Quote.shell path ++ utf8 " retained as " ++ m.shown)

/-- The owner that files have, as far as a text asks for it: a user, a group after a colon, or
both. -/
def shownOwner (text : Bytes) : Bytes :=
  if text.contains 0x3A then utf8 "root:root" else utf8 "root"

/-- The options that say how owners are changed. -/
def switches : List Switch :=
  [.flag "R" "recursive", .flag "c" "changes", .flag "f" "silent", .flag "f" "quiet",
   .flag "v" "verbose", .flag "h" "no-dereference", .flag "" "dereference",
   .valued "" "reference", .valued "" "from", .flag "" "preserve-root",
   .flag "" "no-preserve-root", .flag "H" "", .flag "L" "", .flag "P" ""]

/-- An owner with a colon in place of the dot that was once used. -/
def withColon (text : Bytes) : Bytes :=
  let user := text.takeWhile (· ≠ 0x2E)
  let group := text.drop (user.length + 1)
  if text.contains 0x3A ∨ !text.contains 0x2E then text
  else if isKnown user ∧ (group = [] ∨ isKnown group) then
    user ++ 0x3A :: group
  else text

/-- Changes owners. A text says who they are; what is wrong with it is said by a function. -/
def run (what : String) (wrong : Bytes → Option Bytes) (args : List Bytes) : Work Unit := do
  let f ← Options.read switches true 1 args
  let reference := f.value? "reference"
  let (text, paths) : Bytes × List Bytes := match reference, f.operands with
    | none, text :: paths => (text, paths)
    | _, paths => (utf8 "root", paths)
  if paths = [] then
    if f.operands = [] then missingOperand 1
    else misused 1 (utf8 "missing operand after " ++ Quote.plain (f.operands.headD []))
  match reference with
  | some path =>
    match ← call (.facts path true) with
    | .ok _ => pure ()
    | .error e =>
      complainAbout "failed to get attributes of" path e
      stop
  | none => pure ()
  let text ← if what = "ownership" ∧ withColon text ≠ text then
      say (utf8 "warning: '.' should be ':': " ++ Quote.shell text)
      pure (withColon text)
    else pure text
  match wrong text with
  | some complaint => fail 1 complaint
  | none => pure ()
  let m : Manner :=
    { what := what, shown := shownOwner text, wanted := text, recursive := f.has "R"
      silent := f.has "f", verbose := f.last? ["c", "v"] = some "v", links := f.has "h" }
  for path in paths do
    change m 4096 true path

end Ownership

/-- Gives files to a user, and to a group if there is one after a colon. -/
def chown (args : List Bytes) : Work Unit :=
  Ownership.run "ownership" (fun text =>
    let user := text.takeWhile (· ≠ 0x3A)
    let group := text.drop (user.length + 1)
    if user ≠ [] ∧ !Ownership.isKnown user then
      some (utf8 "invalid user: " ++ Quote.shell text)
    else if group ≠ [] ∧ !Ownership.isKnown group then
      some (utf8 "invalid group: " ++ Quote.shell text)
    else none) args

/-- Gives files to a group. -/
def chgrp (args : List Bytes) : Work Unit :=
  Ownership.run "group" (fun text =>
    if Ownership.isKnown text then none
    else some (utf8 "invalid group: " ++ Quote.shell text)) args

end CommandShell.Tool
