import CommandShell.Tool.Words

/-!
# Tools that tell about the system and its user

There is one user, who owns everything, and one system.
-/

namespace CommandShell.Tool

open Work

/-- Writes what is known of the system. -/
def uname (args : List Bytes) : Work Unit := do
  let f ← Options.read [.flag "a" "all", .flag "s" "kernel-name", .flag "s" "sysname",
    .flag "n" "nodename", .flag "r" "kernel-release", .flag "r" "release",
    .flag "v" "kernel-version", .flag "m" "machine", .flag "p" "processor",
    .flag "i" "hardware-platform", .flag "o" "operating-system"] true 1 args
  match f.operands with
  | extra :: _ => extraOperand 1 extra
  | [] => pure ()
  let known : List (String × String) :=
    [("s", "Linux"), ("m", "x86_64"), ("p", "x86_64"), ("i", "x86_64"), ("o", "GNU/Linux")]
  let wanted := known.filter fun k => f.has k.1 || f.has "a"
  let shown := if f.given.isEmpty then ["Linux"] else wanted.map (·.2)
  putLine ([0x20].intercalate (shown.map utf8))

/-- The name of the user. -/
def userName : String := "root"

/-- Writes the numbers and names of a user. -/
def identity (args : List Bytes) : Work Unit := do
  let f ← Options.read [.flag "a" "", .flag "Z" "context", .flag "g" "group", .flag "G" "groups",
    .flag "n" "name", .flag "r" "real", .flag "u" "user", .flag "z" "zero"] true 1 args
  let choices := ["u", "g", "G"].filter f.has
  if 1 < choices.length then fail 1 (utf8 "cannot print \"only\" of more than one choice")
  if choices = [] ∧ (f.has "n" ∨ f.has "r") then
    fail 1 (utf8 "cannot print only names or real IDs in default format")
  if choices = [] ∧ f.has "z" then
    fail 1 (utf8 "option --zero not permitted in default format")
  let text :=
    if choices = [] then s!"uid=0({userName}) gid=0({userName}) groups=0({userName})"
    else if f.has "n" then userName else "0"
  let users := if f.operands = [] then [utf8 userName] else f.operands
  for user in users do
    if user = utf8 userName ∨ user = utf8 "0" then
      put (utf8 text ++ if f.has "z" then [0] else [0x0A])
    else complain (Quote.plain user ++ utf8 ": no such user")

/-- Writes the groups of users. -/
def groups (args : List Bytes) : Work Unit := do
  let f ← Options.read [] true 1 args
  if f.operands = [] then putLine (utf8 userName)
  for user in f.operands do
    if user = utf8 userName then putLine (user ++ utf8 " : " ++ utf8 userName)
    else complain (Quote.plain user ++ utf8 ": no such user")

/-- Writes the name of the terminal of the input. There is none. -/
def tty (args : List Bytes) : Work Unit := do
  let f ← Options.read [.flag "s" "silent", .flag "s" "quiet"] true 2 args
  match f.operands with
  | extra :: _ => extraOperand 2 extra
  | [] => pure ()
  if !f.has "s" then putLine (utf8 "not a tty")
  fault 1

/-- Writes the name that the user has logged in with. There is none. -/
def logname (args : List Bytes) : Work Unit := do
  let f ← Options.read [] true 1 args
  match f.operands with
  | extra :: _ => extraOperand 1 extra
  | [] => fail 1 (utf8 "no login name")

end CommandShell.Tool
