/-
# The command

Reads the environment of a load from standard input, one variable a line, and
writes the log records of a trial of it. A load that fails is reported on
standard error, and the command ends with status 1.
-/
import TableLoader.Trial

namespace TableLoader

/-- The lines of a stream, without the line breaks at their ends. -/
partial def readLines (input : IO.FS.Stream) (lines : Array String) : IO (Array String) := do
  let line ← input.getLine
  if line.isEmpty then return lines
  readLines input (lines.push (String.ofList (line.toList.filter (· ≠ '\n'))))

end TableLoader

def main : IO UInt32 := do
  let lines ← TableLoader.readLines (← IO.getStdin) #[]
  let (records, failure) := TableLoader.Trial.report lines.toList
  for record in records do
    IO.println record
  match failure with
  | none => return 0
  | some line =>
    IO.eprintln line
    return 1
