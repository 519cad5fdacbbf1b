import CommandShell.Tool.Words

/-!
# Removing files

Files are removed, and directories with all that is in them if that is asked for. The tool can ask
beforehand.
-/

namespace CommandShell.Tool

open Work

namespace Removal

/-- How files are removed. -/
structure Manner where
  /-- What is not there is not worth a complaint. -/
  forced : Bool
  /-- Directories are removed with all that is in them. -/
  recursive : Bool
  /-- Directories without entries are removed. -/
  emptyDirectories : Bool
  /-- It is asked before each removal. -/
  asking : Bool
  /-- It is said what was removed. -/
  verbose : Bool

/-- What an entry is called in a question. -/
def kindName (f : Facts) : String :=
  match f.kind with
  | .file => if f.size = 0 then "regular empty file" else "regular file"
  | .directory => "directory"
  | .link => "symbolic link"
  | .pipe => "fifo"
  | .device => "character special file"

/-- What is said about an entry that is not removed. -/
def notRemoved : String := "cannot remove"

/-- Asks whether an entry is to be removed, if it has to be asked. -/
def allowed (m : Manner) (path : Bytes) (f : Facts) : Work Bool :=
  if m.asking then agrees (utf8 ("remove " ++ kindName f ++ " ") ++ Quote.shell path)
  else return true

/-- Says that an entry was removed, or why it was not. -/
def report (m : Manner) (path : Bytes) (directory : Bool) (r : Except Errno Unit) : Work Unit :=
  match r with
  | .ok () =>
    if m.verbose then
      putLine (utf8 (if directory then "removed directory " else "removed ") ++ Quote.shell path)
    else return ()
  | .error e => complainAbout notRemoved path e

/-- Removes an entry. -/
def remove (m : Manner) : Nat → Bool → Bytes → Work Unit
  | 0, _, _ => return ()
  | fuel + 1, top, path => do
    match ← call (.facts path false) with
    | .error e =>
      if !(m.forced ∧ (e = .noEntry ∨ e = .notDirectory)) then complainAbout notRemoved path e
    | .ok f =>
      if f.kind = .directory then
        let listed : Except Errno (List (Name × Kind)) ← call (.children path)
        let names := match listed with
          | .ok found => found.map (·.1)
          | .error _ => []
        let last := lastName path
        if !m.recursive ∧ !(m.emptyDirectories ∧ names = []) then
          complainAbout notRemoved path (if m.emptyDirectories then .notEmpty else .isDirectory)
        else if top ∧ (last = utf8 "." ∨ last = utf8 "..") then
          complain (utf8 "refusing to remove '.' or '..' directory: skipping " ++ Quote.shell path)
        else if top ∧ f.location = [] then
          complain (utf8 "it is dangerous to operate recursively on " ++ Quote.shell path)
          say (utf8 "use --no-preserve-root to override this failsafe")
        else
          let descends ← if m.asking ∧ names ≠ [] then
              agrees (utf8 "descend into directory " ++ Quote.shell path)
            else pure true
          if descends then
            for n in names do
              remove m fuel false (below path n)
            if ← allowed m path f then
              report m path true (← call (.change (.removeDirectory path)))
      else if ← allowed m path f then
        report m path false (← call (.change (.unlink path)))

end Removal

/-- Removes files and directories. -/
def rm (args : List Bytes) : Work Unit := do
  let f ← Options.read [.flag "f" "force", .flag "i" "", .flag "I" "", .flag "r" "recursive",
    .flag "R" "", .flag "d" "dir", .flag "v" "verbose", ⟨"", "interactive", .optional⟩,
    .flag "" "one-file-system", .flag "" "no-preserve-root", ⟨"", "preserve-root", .optional⟩]
    true 1 args
  let recursive := f.has "r" || f.has "R"
  let when_ := f.last? ["f", "i", "I", "interactive"]
  let word := (f.value? "interactive").getD (utf8 "always")
  let always := when_ = some "i" || (when_ = some "interactive" && word = utf8 "always")
  let once := when_ = some "I" || (when_ = some "interactive" && word = utf8 "once")
  let m : Removal.Manner :=
    { forced := when_ = some "f", recursive := recursive, emptyDirectories := f.has "d"
      asking := always, verbose := f.has "v" }
  let count := f.operands.length
  if count = 0 then
    if m.forced then return () else missingOperand 1
  if once ∧ (recursive ∨ 3 < count) then
    let arguments := if count = 1 then " argument" else " arguments"
    let how := if recursive then " recursively" else ""
    if !(← agrees (utf8 ("remove " ++ toString count ++ arguments ++ how))) then return ()
  for path in f.operands do
    Removal.remove m 4096 true path

/-- Removes a name of a file. -/
def unlink (args : List Bytes) : Work Unit := do
  let f ← Options.read [] true 1 args
  match f.operands with
  | [] => missingOperand 1
  | [path] =>
    match ← call (.change (.unlink path)) with
    | .ok () => return ()
    | .error e => complainAbout "cannot unlink" path e
  | _ :: extra :: _ => extraOperand 1 extra

end CommandShell.Tool
