import CommandShell.Builtin

/-!
# Tables of builtin commands

A table lists builtin commands by name. The first entry of a name counts; names are compared byte
for byte. What the commands of a table are is left open: all that counts is what they do.
-/

namespace CommandShell

/-- Builtin commands with their names, in the order in which they are looked through. -/
abbrev Table (β : Type := Builtin) := List (String × β)

namespace Table

/-- The commands of every session. -/
def standard : Table :=
  [("cr", .create), ("help", .help), ("exit", .exit), ("op", .print)]

/-- The command of a name: the first entry of exactly these bytes. -/
def builtin? {β : Type} (t : Table β) (name : Bytes) : Option β :=
  (List.find? (fun entry => utf8 entry.1 = name) t).map (·.2)

end Table

end CommandShell
