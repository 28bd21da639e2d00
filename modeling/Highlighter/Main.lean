import Highlighter.CommandLine.Run

/-!
The program: the command line run against the files of the machine.
-/

namespace Highlighter

/-- The error that the system reports, as one of ours. -/
def FileError.ofSystem : IO.Error → FileError
  | .noFileOrDirectory .. => .notFound
  | e => .other (toString e)

/-- Carries out an operation and catches the error that it reports. -/
def caught {α : Type} (operation : IO α) : IO (Except FileError α) := do
  try
    return .ok (← operation)
  catch e =>
    return .error (.ofSystem e)

/-- The files of the machine. -/
def systemFiles : Files IO where
  read path := caught (IO.FS.readFile path)
  isPresent path := do return (← caught (discard (IO.FS.Handle.mk path .read))).isOk
  makeDirectories path := caught (IO.FS.createDirAll path)
  write path text := caught (IO.FS.writeFile path text)
  append path text := caught do (← IO.FS.Handle.mk path .append).putStr text

end Highlighter

/-- Runs the program on its arguments and the listing that the environment sets. -/
def main (arguments : List String) : IO UInt32 := do
  let setting ← IO.getEnv "SITELEX_GML_BUILTINS"
  let outcome ← Highlighter.CommandLine.run Highlighter.systemFiles setting arguments
  (← IO.getStdout).putStr outcome.stdout
  (← IO.getStderr).putStr outcome.stderr
  return outcome.exitCode.toUInt32
