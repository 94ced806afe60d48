import ExprMachine.CommandLine

/-!
# The program

Reads the files that the arguments name, runs the command, and prints what it gives.
-/

namespace ExprMachine

/-- Why the system does not read a file. A folder can be opened but not read, so that its path is no
longer known when reading fails. -/
def ReadFault.ofSystem : IO.Error → ReadFault
  | .inappropriateType none .. => .isDirectory
  | .inappropriateType (some _) .. => .notADirectory
  | .invalidArgument .. => .nameTooLong
  | _ => .notFound

/-- Reads a file. -/
def readFile (path : String) : IO (Except ReadFault Bytes) := do
  try
    let bytes ← IO.FS.readBinFile path
    return .ok bytes.toList
  catch e => return .error (.ofSystem e)

end ExprMachine

open ExprMachine in
/-- Runs the command line. -/
def main (args : List String) : IO UInt32 := do
  let files ← (CommandLine.pathsOf args).mapM fun path => do return (path, ← readFile path)
  let result := CommandLine.run (fun path => (files.lookup path).getD (.error .notFound)) args
  match result with
  | .printed text => IO.print text
  | .failed failure => IO.eprintln ("Error: " ++ failure.message)
  | .refused => IO.eprintln CommandLine.helpText
  return result.exitCode
