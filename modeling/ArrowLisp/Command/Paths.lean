import ArrowLisp.Command.Run

/-!
# The paths of a run

Which files a run may look at is settled by its arguments, its variables and its standard input,
before anything runs: the files named as arguments, or the history and the files that lines of a
session could load. Whoever gathers the files for a run gathers these and no others. A run changes
at most the files among them.
-/

namespace ArrowLisp.Command

/-- The part of a path up to its last slash; a path without one is in the working directory. -/
def directoryOf (path : String) : String :=
  match (path.toList.reverse.dropWhile (· ≠ '/')).reverse with
  | [] => "."
  | directory => String.ofList directory

/-- The paths in load commands among the lines of a stream, at most `fuel` lines. -/
def loadPaths : Nat → Text.Stream → List String
  | 0, _ => []
  | fuel + 1, stream =>
    match stream.readLine with
    | (.atEnd, _) => []
    | (.garbled, rest) => loadPaths fuel rest
    | (.line cs, rest) =>
      match (Session.typedLine cs).bind Session.Command.ofLine with
      | some (.load path) => path :: loadPaths fuel rest
      | _ => loadPaths fuel rest

/-- The paths that a task may look at. -/
def Task.paths (vars : Variables) (stdin : Text.Stream) : Task → List String
  | .run (some _) _ => []
  | .run none files => files
  | .repl =>
    let history := historyFile vars
    directoryOf history :: history :: loadPaths stdin.length stdin

/-- What the arguments ask to run, if they ask to run anything. -/
def requestedTask (vars : Variables) (args : List String) : Option Task :=
  match parseArguments vars args with
  | .ok (.start _ task) => if task.isIdle then none else some task
  | _ => none

/-- The files among the paths that a run left with new content. -/
def Exit.changes (exit : Exit) (before : Files) (paths : List String) :
    List (String × Text.Stream) :=
  paths.eraseDups.filterMap fun path =>
    match exit.files.readStream path, before.readStream path with
    | .ok new, .ok old => if new = old then none else some (path, new)
    | .ok new, .error _ => some (path, new)
    | .error _, _ => none

end ArrowLisp.Command
