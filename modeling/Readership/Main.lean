import Readership.Command.Program

/-!
# The command line

Files are read from where the program stands. There is no network here, so a
server is never reached.
-/

open Readership

/-- The text of a file, if it is there and is text. -/
def readTextFile (path : String) : IO (Option String) := do
  try
    let text ← IO.FS.readFile path
    pure (some text)
  catch _ => pure none

/-- The files of the place where the program stands, and no server. -/
def localHost : Host IO :=
  { fileText := readTextFile, post := fun _ => pure .unreachable }

def main (arguments : List String) : IO UInt32 := do
  let exit ← Command.run localHost arguments
  let out ← IO.getStdout
  out.putStr exit.out
  let err ← IO.getStderr
  err.putStr exit.err
  pure exit.code.toUInt32
