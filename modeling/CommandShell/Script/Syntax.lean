import CommandShell.Bytes

/-!
# The language of scripts

A script is a sequence of commands. A command runs a program or combines other commands; its words
are texts with places in them that are filled when it is executed: parameters, what other commands
write, and sums.
-/

namespace CommandShell.Script

/-- How the value of a parameter is used where it stands. -/
inductive Use where
  /-- It is taken as it is. -/
  | value
  /-- The number of its bytes is taken. -/
  | length
  /-- A word is taken in its place if it has none. -/
  | otherwise
  /-- The same, and the word becomes its value. -/
  | assign
  /-- It is an error if it has none, and a word is the complaint. -/
  | require
  /-- A word is taken in its place if it has one. -/
  | alternative
  /-- It is taken without an end that a pattern matches. -/
  | withoutEnd (longest : Bool)
  /-- It is taken without a beginning that a pattern matches. -/
  | withoutStart (longest : Bool)
  /-- It is written in a way that means nothing. -/
  | meaningless
deriving DecidableEq

/-- How a file is opened for a command. -/
inductive Direction where
  /-- To be read. -/
  | input
  /-- To be written from its beginning. -/
  | output
  /-- To be written from its beginning, even if it was there. -/
  | clobber
  /-- To be written after its end. -/
  | append
  /-- To be read and written. -/
  | both
deriving DecidableEq

/-- What an open file of a command is made a copy of. -/
inductive Source where
  /-- Of the open file of a number. -/
  | number (n : Nat)
  /-- Of none: it is closed. -/
  | nothing
deriving DecidableEq

mutual

/-- A piece of a word. -/
inductive Piece where
  /-- A byte; if it is escaped, it stands for itself in patterns as well. -/
  | byte (b : UInt8) (escaped : Bool)
  /-- A quotation mark: the pieces to the next one are quoted, or not quoted any more. -/
  | mark
  /-- The value of a parameter. If `orEmpty` is set, an empty value counts as none. -/
  | parameter (name : Bytes) (use : Use) (orEmpty : Bool) (word : List Piece)
  /-- What a command writes. -/
  | command (body : Tree)
  /-- The value of an arithmetic expression. -/
  | arithmetic (expression : List Piece)

/-- A change of an open file for a command. -/
inductive Redirection where
  /-- A file is opened. -/
  | file (fd : Nat) (direction : Direction) (name : List Piece)
  /-- An open file is copied or closed. -/
  | copy (fd : Nat) (source : Source)
  /-- An open file is copied or closed, as a word says. -/
  | copyOf (fd : Nat) (word : List Piece)
  /-- The text of a document of the script is read. -/
  | document (fd : Nat) (number : Nat)

/-- A command. -/
inductive Tree where
  /-- Nothing is done. -/
  | empty
  /-- A program is run, or variables are set if no program is named. -/
  | simple (line : Nat) (assignments words : List (List Piece)) (redirections : List Redirection)
  /-- Commands run at the same time, each reading what the one before it writes. -/
  | pipe (commands : List Tree) (background : Bool)
  /-- A command runs in a process of its own. -/
  | subshell (line : Nat) (body : Tree) (redirections : List Redirection)
  /-- A command runs in a process of its own that is not waited for. -/
  | background (line : Nat) (body : Tree) (redirections : List Redirection)
  /-- A command runs with other open files. -/
  | redirected (line : Nat) (body : Tree) (redirections : List Redirection)
  /-- The second command runs if the first succeeds. -/
  | both (first second : Tree)
  /-- The second command runs if the first fails. -/
  | either (first second : Tree)
  /-- One command after another. -/
  | sequence (first second : Tree)
  /-- A command whose failure is a success. -/
  | negated (body : Tree)
  /-- One of two commands. -/
  | choice (condition yes no : Tree)
  /-- A command as long as another succeeds, or until it does. -/
  | loop (until_ : Bool) (condition body : Tree)
  /-- A command for each of some words. -/
  | each (line : Nat) (name : Bytes) (words : List (List Piece)) (body : Tree)
  /-- The command of the first pattern that a word matches. -/
  | select (line : Nat) (word : List Piece) (arms : List (List (List Piece) × Tree))
  /-- A name is given to a command. -/
  | define (line : Nat) (name : Bytes) (body : Tree)

end

instance : Inhabited Tree := ⟨.empty⟩

/-- A word. -/
abbrev Word := List Piece

/-- The word that stands for all positional parameters. -/
def allParameters : Word :=
  [.mark, .parameter [0x40] .value false [], .mark]

end CommandShell.Script
