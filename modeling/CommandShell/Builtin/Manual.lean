/-!
# Texts of the builtin commands

Help texts, manuals and usage lines.
-/

namespace CommandShell

/-- The text that the command `help` prints. -/
def overview : String :=
  "\n" ++
  "*******************************************\n" ++
  "\n" ++
  "lsh, a minimal command interpreter\n" ++
  "___________________________________________\n" ++
  "\n" ++
  "Type a program name and its arguments, then hit enter.\n" ++
  "Arguments are separated by blanks; quotes are not interpreted.\n" ++
  "The following commands are built in:\n" ++
  "\n" ++
  "\t1. help\n" ++
  "\t2. exit\n" ++
  "\t3. op (path...)\n" ++
  "\t4. cr (path...)\n" ++
  "\n" ++
  "Type 'op --man' or 'cr --man' for details, or 'man <program>'\n" ++
  "for information on other programs.\n" ++
  "\n"

/-- The texts of a command that takes paths. -/
structure Manual where
  /-- The name of the command. -/
  name : String
  /-- What it does, as its help text says it. -/
  summary : String
  /-- The manual as a whole. -/
  text : String

namespace Manual

/-- The line that is printed when no path is given. -/
def usage (m : Manual) : String :=
  "usage: " ++ m.name ++ " <path>...\n"

/-- The help text under the name by which the command was called. -/
def helpText (m : Manual) (calledAs : String) : String :=
  "Usage: " ++ calledAs ++ " [--man] [paths...]\n\n" ++
  m.summary ++ "\n\n" ++
  "Options:\n" ++
  "  --man             print the manual of " ++ m.name ++ "\n" ++
  "  --help, help      display usage information\n"

/-- The texts of the command that creates files. -/
def create : Manual where
  name := "cr"
  summary := "Create the named files. Existing files are left untouched."
  text :=
    "cr - create files\n\nusage: cr <path>...\n\n" ++
    "Creates every named file that does not exist yet.\n" ++
    "Paths are absolute or relative to the current directory.\n"

/-- The texts of the command that prints files. -/
def print : Manual where
  name := "op"
  summary := "Print the contents of the named files."
  text :=
    "op - open files\n\nusage: op <path>...\n\n" ++
    "Writes the contents of every named file to standard output, in order.\n"

end Manual

end CommandShell
