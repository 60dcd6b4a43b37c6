import ArrowLisp.Command.Paths

/-!
# The program

Gathers what a run is given from the process, runs it, and hands back what it leaves behind. The
standard input is taken whole before the run starts.
-/

namespace ArrowLisp.Command

/-- The variables that a run looks at. -/
def variableNames : List String :=
  [stackSizeVariable, historyFileVariable, historySizeVariable, "HOME", "TERM", "CLICOLOR_FORCE"]

/-- Those variables that are set. -/
def gatherVariables : IO Variables := do
  let mut vars := []
  for name in variableNames do
    if let some value ← IO.getEnv name then vars := vars ++ [(name, value)]
  return vars

/-- All bytes of a stream. -/
partial def readAllBytes (stream : IO.FS.Stream) (before : ByteArray) : IO ByteArray := do
  let chunk ← stream.read 65536
  if chunk.isEmpty then return before else readAllBytes stream (before ++ chunk)

/-- What stands at a path, if anything does. -/
def gatherNode (path : String) : IO (Option Node) := do
  let here ← IO.currentDir
  if ← (here / path).isDir then return some .directory
  try
    let content ← IO.FS.readBinFile (here / path)
    return some (.file (.ofBytes content.data.toList))
  catch _ => return none

/-- The files at these paths. -/
def gatherFiles (paths : List String) : IO Files := do
  let mut entries := []
  for path in paths do
    if let some node ← gatherNode path then entries := entries ++ [(path, node)]
  return .ofList entries

/-- Runs the command on what the process was given. -/
def runProcess (args : List String) : IO UInt32 := do
  let vars ← gatherVariables
  let task := requestedTask vars args
  let bytes ← if task.isSome then readAllBytes (← IO.getStdin) .empty else pure .empty
  let stdin := Text.Stream.ofBytes bytes.data.toList
  let paths := (task.map (Task.paths vars stdin)).getD []
  let files ← gatherFiles paths
  let exit := run { args, vars, stdin, files }
  IO.print exit.stdout
  IO.eprint exit.stderr
  for (path, content) in exit.changes files paths do
    IO.FS.writeBinFile path ⟨content.toBytes.toArray⟩
  return exit.code.toUInt32

end ArrowLisp.Command

def main (args : List String) : IO UInt32 :=
  ArrowLisp.Command.runProcess args
