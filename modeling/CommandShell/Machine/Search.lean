import CommandShell.Machine.Call

/-!
# Finding a program

A program that is not named by a path is looked for in directories, one after the other. A file that
can be executed and is no program is given to a shell.
-/

namespace CommandShell.Search

/-- The program that executes files that are no programs. -/
def shellPath : Bytes := utf8 "/bin/sh"

/-- The number of bytes of a path, with a byte zero after it, that are looked at. -/
def pathLimit : Nat := 4096

/-- The paths at which a program is looked for. A directory with too long a name is passed over; if
others follow, the current directory is tried in its place. -/
def candidates (searchPath name : Bytes) : List Bytes :=
  let limit := min searchPath.length (pathLimit - 1) + 1
  go limit (searchPath.splitOn 0x3A)
where
  /-- The paths in some directories. -/
  go (limit : Nat) : List Bytes → List Bytes
    | [] => []
    | [d] => if limit ≤ d.length then [] else [place d]
    | d :: rest => (if limit ≤ d.length then name else place d) :: go limit rest
  /-- The path in a directory. -/
  place (directory : Bytes) : Bytes :=
    if directory = [] then name else directory ++ slash :: name

/-- Whether the search goes on in the next directory after an error. -/
def goesOn (e : Errno) : Bool :=
  e = .noEntry || e = .notDirectory || e = .permissionDenied

/-- Replaces a process by the program at a path, or by a shell if the file there is no program. -/
def executeAt (path : Bytes) (args environment : List Bytes) (otherwise : Errno → Task) : Task :=
  .exec path args environment fun e =>
    if e = .execFormat then
      .exec shellPath (shellPath :: path :: args.tail) environment otherwise
    else otherwise e

/-- Replaces a process by a program at one of some paths. If none of them has one, the error is that
permission was denied, if it was anywhere, and the last one otherwise. -/
def executeAny (args environment : List Bytes) (otherwise : Errno → Task) :
    Bool → Errno → List Bytes → Task
  | denied, last, [] => otherwise (if denied then .permissionDenied else last)
  | denied, _, path :: rest =>
    executeAt path args environment fun e =>
      if goesOn e then
        executeAny args environment otherwise (denied || e = .permissionDenied) e rest
      else otherwise e

/-- Where programs are looked for if that is not set. -/
def usualSearchPath : Bytes := utf8 "/bin:/usr/bin"

/-- Replaces a process by the program that its first argument names. -/
def execute (searchPath : Option Bytes) (args environment : List Bytes)
    (otherwise : Errno → Task) : Task :=
  let name := args.headD []
  if name = [] then otherwise .noEntry
  else if name.contains slash then executeAt name args environment otherwise
  else
    executeAny args environment otherwise false .noEntry
      (candidates (searchPath.getD usualSearchPath) name)

end CommandShell.Search
