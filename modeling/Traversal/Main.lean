import Traversal.Cli.Program

/-! The command line. It collects files and variables, and leaves the rest to the program. -/
namespace Traversal.Main
open Cli

/-- The fault behind a failed attempt to read a file. -/
def faultOf : IO.Error → Fault
  | .noFileOrDirectory .. | .noSuchThing .. => .missing
  | .inappropriateType _ 21 _ => .isDirectory
  | .inappropriateType .. => .notDirectory
  | .invalidArgument _ 22 _ => .nullInName
  | .invalidArgument .. => .nameTooLong
  | error => .other (toString error)

/-- The bytes of a file, or why it cannot be read. -/
def readFile (path : String) : IO (Except Fault ByteArray) := do
  try
    return .ok (← IO.FS.readBinFile path)
  catch error =>
    return .error (faultOf error)

/-- The files at paths. -/
def readFiles (paths : List String) : IO Files := do
  let contents ← paths.mapM fun path => do return (path, ← readFile path)
  return fun path => (contents.lookup path).getD (.error .missing)

/-- The variables among some names that are set. -/
def readVariables (names : List String) : IO (List Dotenv.Assignment) := do
  let found ← names.mapM fun name => do return (← IO.getEnv name).map fun value => (name, value)
  return found.filterMap id

end Traversal.Main

/-- Runs the program. -/
def main (arguments : List String) : IO UInt32 := do
  let files ← Traversal.Main.readFiles (Traversal.Cli.Program.paths arguments)
  let environment ← Traversal.Main.readVariables (Traversal.Cli.Program.names files)
  let ending := Traversal.Cli.Program.run arguments environment files
  IO.print ending.output
  IO.eprint ending.messages
  return ending.code.toUInt32
