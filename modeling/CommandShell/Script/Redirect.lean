import CommandShell.Script.Expand

/-!
# Changing open files for a command

The words of redirections are filled in first, apart from the texts that are to be read; then each
open file is kept under a high number before another takes its place, so that it can be put back
after the command. A redirection that fails is an error of the command alone.
-/

namespace CommandShell.Script

/-- A redirection with its word filled in. -/
inductive Ready where
  /-- A file is opened. -/
  | file (fd : Nat) (direction : Direction) (name : Bytes)
  /-- An open file is copied or closed. -/
  | copy (fd : Nat) (source : Source)
  /-- A text is read, which is filled in last. -/
  | document (fd : Nat) (text : Word)

namespace Ready

/-- The number of the open file that changes. -/
def fd : Ready → Nat
  | file fd _ _ => fd
  | copy fd _ => fd
  | document fd _ => fd

end Ready

namespace Act

/-- What is said of a path that could not be used, for some reasons in words of its own. -/
def reason (missing : String) (e : Errno) : Bytes :=
  utf8 (if e = .noEntry ∨ e = .notDirectory then missing else e.libraryText)

variable (run : Runner)

/-- A complaint that a word is no number of an open file. It is made as of the line up to which the
text has been read. -/
def badNumber {α : Type} : Act α := do
  modify fun s => { s with errorLine := (s.sources.head?.map (·.line)).getD s.errorLine }
  fail (utf8 "Syntax error: Bad fd number")

/-- Fills in the word of a redirection. -/
def prepare (r : Redirection) : Act Ready := do
  match r with
  | .file fd direction name =>
    return .file fd direction (← textOf run .text name)
  | .copy fd source => return .copy fd source
  | .copyOf fd word =>
    match ← fieldsOf run word with
    | text :: _ =>
      match text with
      | [0x2D] => return .copy fd .nothing
      | [d] =>
        if Word.isDigit d then return .copy fd (.number (d.toNat - 48))
        else badNumber
      | _ => badNumber
    | [] => badNumber
  | .document fd number =>
    return .document fd ((← get).documents[number]?.getD [])

/-- The number of bytes that are put into a pipe without a process that does it. -/
def pipeShare : Nat := 4096

/-- Opens the file of a redirection; the answer is its number. -/
def openFor (direction : Direction) (name : Bytes) : Act Nat := do
  let opened (what missing : String) (r : Except Errno Nat) : Act Nat :=
    match r with
    | .ok fd => return fd
    | .error e => fail (utf8 what ++ name ++ utf8 ": " ++ reason missing e)
  let create := opened "cannot create " "Directory nonexistent"
  let enter := opened "cannot open " "No such file"
  match direction with
  | .input => enter (← call (.openFile name .reading))
  | .both => create (← call (.openFile name .both))
  | .append => create (← call (.openFile name .appending))
  | .clobber => create (← call (.openFile name .writing))
  | .output =>
    if ← option 'C' then
      match ← call (.facts name true) with
      | .error _ => create (← call (.openFile name { Opening.writing with exclusive := true }))
      | .ok f =>
        if f.kind = .file then create (.error .alreadyExists)
        else enter (← call (.openFile name ⟨false, true, false, false, false, false⟩))
    else create (← call (.openFile name .writing))

/-- Makes a text readable; the answer is the number of the open file. -/
def openText (text : Bytes) : Act Nat := do
  let (reading, writing) ← openEnds
  if text.length ≤ pipeShare then emit writing text
  else
    let _ ← forkWith do
      let _ ← call (.close reading)
      emit writing text
      modify fun s => { s with status := 0 }
  let _ ← call (.close writing)
  return reading

/-- Keeps an open file under a high number; the answer is that number, if the file was open. -/
def keepOpen (fd : Nat) : Act (Option Nat) := do
  match ← call (.duplicate fd 10) with
  | .ok kept =>
    let _ ← call (.closeOnExec kept)
    let _ ← call (.close fd)
    return some kept
  | .error _ => return none

/-- Makes one redirection. What was there is kept if asked for. -/
def redirectOne (keeping : Bool) (r : Ready) : Act Unit := do
  let fd := r.fd
  let remember : Option Nat → Act Unit := fun old =>
    modify fun s =>
      match s.saved with
      | frame :: rest =>
        if frame.any (·.1 = fd) then s else { s with saved := ((fd, old) :: frame) :: rest }
      | [] => s
  let isKept : Act Bool := do
    match (← get).saved with
    | frame :: _ => return frame.any (·.1 = fd)
    | [] => return false
  let make : Option Nat → Bool → Act Unit := fun new own => do
    if keeping ∧ !(← isKept) then
      if new ≠ some fd then remember (← keepOpen fd) else remember none
    match new with
    | some n =>
      if n ≠ fd then
        match ← call (.redirect n fd) with
        | .ok () => if own then let _ ← call (.close n)
        | .error e => fail (utf8 (toString n ++ ": " ++ e.libraryText))
    | none => let _ ← call (.close fd)
  match r with
  | .file _ direction name => make (some (← openFor direction name)) true
  | .document _ word => make (some (← openText (← textOf run .quotedText word))) true
  | .copy _ .nothing => make none false
  | .copy _ (.number n) => if n ≠ fd then make (some n) false

/-- Makes redirections for good. -/
def redirectAll (rs : List Ready) : Act Unit :=
  rs.forM (redirectOne run false)

/-- Makes redirections, keeping what was there; the answer is whether that went well. -/
def pushRedirections (rs : List Ready) : Act Bool := do
  modify fun s => { s with saved := [] :: s.saved }
  match ← attempt (rs.forM (redirectOne run true)) with
  | .ok () => return true
  | .error .error => return false
  | .error e => throw e

end Act

end CommandShell.Script
