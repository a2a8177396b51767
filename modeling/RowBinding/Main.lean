import RowBinding.CommandLine.Run

/-!
# The program

Reads what an invocation names, computes its result, and writes it. Everything that decides is
in `CommandLine`.
-/
namespace RowBinding.CommandLine

/-- The paths of the files that an invocation reads. -/
def Invocation.paths (i : Invocation) : List String :=
  i.input.toList ++
    match i.task with
    | .readRows _ _ naming => naming.file.toList
    | _ => []

/-- What is found at a path: the bytes, or why the system does not give them. -/
def readFile (path : String) : IO (Except String ByteArray) := do
  try
    return .ok (← IO.FS.readBinFile path)
  catch e => return .error (toString e)

/-- The bytes of the standard input, unless the input is a file. -/
def readStdin (i : Invocation) : IO ByteArray := do
  match i.input with
  | some _ => return ByteArray.empty
  | none => (← IO.getStdin).readBinToEnd

/-- Writes a result where the invocation asks for it; the exit code. -/
def writeResult (i : Invocation) (text : String) : IO UInt32 := do
  match i.output with
  | none =>
    IO.println text
    return 0
  | some path =>
    try
      IO.FS.writeFile path text
      IO.eprintln (writtenNote path)
      return 0
    catch e =>
      IO.eprintln (RunError.inputOutput (toString e)).message
      return 1

def execute (i : Invocation) : IO UInt32 := do
  let stdin ← readStdin i
  let found ← i.paths.mapM fun path => return (path, ← readFile path)
  match i.result stdin fun path => (found.lookup path).getD (.error "") with
  | .error e =>
    IO.eprintln e.message
    return 1
  | .ok text => writeResult i text

end RowBinding.CommandLine

open RowBinding.CommandLine

def main (args : List String) : IO UInt32 := do
  match Asked.ofArguments? args with
  | none =>
    IO.eprint Topic.program.text
    return 2
  | some (.help topic) =>
    IO.print topic.text
    return 0
  | some (.invocation i) => execute i
