import RecordBuilders.CommandLine.Run

/-! The program: reads the files that the command line names, and carries out what the command
makes of them. -/
namespace RecordBuilders

/-- The fault behind an error of the operating system. -/
def FileFault.ofError : IO.Error → FileFault
  | .inappropriateType _ 20 _ => .notADirectory
  | .inappropriateType _ _ _ => .isADirectory
  | .invalidArgument _ 36 _ => .nameTooLong
  | _ => .notFound

def readPath (path : Path) : IO (Path × Except FileFault (List UInt8)) := do
  try
    return (path, .ok (← IO.FS.readBinFile path.text).toList)
  catch error => return (path, .error (.ofError error))

/-- The contents of all paths that a command line asks to read. -/
def readAll (arguments : List String) : IO (List (Path × Except FileFault (List UInt8))) :=
  match Arguments.read arguments with
  | .ok options => ((options.config.bind Supplied.path?).toList ++ options.sources).mapM readPath
  | .error _ => return []

def finish (report : Report) : IO UInt32 := do
  IO.print report.out
  IO.eprint report.err
  match report.exit with
  | .ok code => return code.toUInt32
  | .error escape =>
    IO.eprintln escape.message
    return 1

def carryOut : Command.Plan → IO UInt32
  | .done report => finish report
  | .write path text before after => do
    try
      IO.FS.writeFile path.text text
      finish after
    catch error => finish { before with exit := .error (.file path (.ofError error)) }

/-- The levels of nesting that the program goes through. -/
def depthLimit : Nat := 330

end RecordBuilders

open RecordBuilders in
def main (arguments : List String) : IO UInt32 := do
  let contents ← readAll arguments
  let files : Files := fun path => (contents.lookup path).getD (.error .notFound)
  carryOut (Command.plan (.ofDepth depthLimit) files arguments)
