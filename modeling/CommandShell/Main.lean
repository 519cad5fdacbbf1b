import CommandShell.CommandLine

/-!
# Running the program

Reads the arguments and the whole input, runs the interpreter in an empty directory of a system of
its own, and writes what that comes to.
-/

open CommandShell

/-- Reads a stream to its end. -/
partial def readToEnd (stream : IO.FS.Stream) (done : ByteArray) : IO ByteArray := do
  let chunk ← stream.read 65536
  if chunk.isEmpty then return done else readToEnd stream (done ++ chunk)

/-- The directory in which the interpreter starts. -/
def startDirectory : Path := [utf8 "tmp"]

/-- Runs the interpreter on the standard streams. -/
def main (arguments : List String) : IO UInt32 := do
  let input ← readToEnd (← IO.getStdin) .empty
  let files : FileSystem := ⟨Machine.installation, startDirectory, [], []⟩
  let r := ProgramRun.ofArguments (arguments.map utf8) LimitedSink.unlimited Machine.usual files
    (.ofBytes input.data.toList)
  let out ← IO.getStdout
  out.write ⟨r.output.toArray⟩
  out.flush
  (← IO.getStderr).write ⟨r.diagnostics.toArray⟩
  return UInt32.ofNat <| match r.ending with
    | .exited status => status
    | .killed signal => 128 + signal
