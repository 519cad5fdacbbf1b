import CommandShell.IoError

/-!
# Failures of builtin commands

Why a builtin command gave up. A failure is told from the outside to the inside: what could not be
done first, then why.
-/

namespace CommandShell

/-- Why a builtin command gave up. -/
inductive Failure where
  /-- An argument is no text. -/
  | notText (name argument : String)
  /-- A file could not be created. -/
  | cannotCreate (path : String) (e : IoError)
  /-- A file could not be opened. -/
  | cannotOpen (path : String) (e : IoError)
  /-- The content of an opened file could not be passed on. -/
  | cannotRead (path : String) (e : IoError)
  /-- The output could not be written. -/
  | output (e : IoError)
  /-- The command always fails. -/
  | broken
  /-- The command always fails, for a reason of three layers. -/
  | layered
  /-- A failure in the words of whoever reports it, and what caused it. -/
  | told (outermost : String) (causes : List String)
deriving DecidableEq, Repr

namespace Failure

/-- The layers of a failure, outermost first. -/
def layers : Failure → List String
  | notText name argument => [name ++ ": argument is not valid UTF-8: " ++ argument]
  | cannotCreate path e => ["cr: cannot create " ++ path, e.message]
  | cannotOpen path e => ["op: cannot open " ++ path, e.message]
  | cannotRead path e => ["op: cannot read " ++ path, e.message]
  | output e => [e.message]
  | broken => ["broken builtin"]
  | layered => ["outer", "middle", "inner"]
  | told outermost causes => outermost :: causes

/-- The outermost layer of a failure. -/
def headline (f : Failure) : String :=
  f.layers.headD ""

/-- All layers of a failure in one text. -/
def message (f : Failure) : String :=
  ": ".intercalate f.layers

end Failure

end CommandShell
