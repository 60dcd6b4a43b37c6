import ArrowLisp.Command.Arguments
import ArrowLisp.Command.Stack
import ArrowLisp.Session.Loop

/-!
# The command line

A run of the command as a function of its arguments, variables, standard input and files. It ends
with an exit code, the text of the two output streams, and the files as they are left.
-/

namespace ArrowLisp.Command

open Session (World)

/-- What a run is given. -/
structure Invocation where
  args : List String
  vars : Variables
  stdin : Text.Stream
  files : Files

/-- What a run leaves behind. -/
structure Exit where
  code : Nat
  stdout : String
  stderr : String
  files : Files

/-- The end of a run in some world. -/
def Exit.ofWorld (code : Nat) (w : World) : Exit :=
  ⟨code, w.stdout, w.stderr, w.files⟩

/-- Are texts coloured? -/
def palette (vars : Variables) : Session.Palette :=
  match vars.get? "CLICOLOR_FORCE" with
  | some value => ⟨value != "0"⟩
  | none => ⟨false⟩

/-- How a job ends in which so many expressions failed. -/
def failureEnd : Nat → JobEnd
  | 0 => .done
  | 1 => .failed "1 expression failed"
  | n => .failed (toString n ++ " expressions failed")

/-- A world and how the job in it ended. -/
abbrev Finished := World × JobEnd

/-- Evaluates a text given on the command line and prints the values. -/
def runText (depth : Nat) (text : String) (w : World) : Option Finished :=
  match runSource true depth Scope.topLevel text.toList w with
  | none => none
  | some (.ok n, w') => some (w', failureEnd n)
  | some (.error e, w') => some (w', .failed (Failure.parse e).message)

/-- Evaluates a file in a fresh top level; gives the number of failures. -/
def runFile (depth : Nat) (path : String) (w : World) : Option (Except String Nat × World) :=
  match w.files.readText path with
  | .error e => some (.error ("Failed to read file '" ++ path ++ "': " ++ e.message), w)
  | .ok cs =>
    match runSource false depth Scope.topLevel cs w with
    | none => none
    | some (.ok n, w') => some (.ok n, w')
    | some (.error e, w') =>
      some (.error ("In file '" ++ path ++ "': " ++ (Failure.parse e).message), w')

/-- Evaluates files one after another, up to one that cannot be read; adds up the failures. -/
def runFiles (depth : Nat) : List String → World → Option (Except String Nat × World)
  | [], w => some (.ok 0, w)
  | path :: rest, w =>
    match runFile depth path w with
    | none => none
    | some (.error message, w') => some (.error message, w')
    | some (.ok n, w') =>
      match runFiles depth rest w' with
      | none => none
      | some (.error message, w'') => some (.error message, w'')
      | some (.ok m, w'') => some (.ok (n + m), w'')

/-- Does what was asked for; no result if the evaluation nested too deeply. -/
def perform (settings : Settings) (vars : Variables) (task : Task) (w : World) :
    Option Finished :=
  let depth := stackDepth settings.stackSize
  match task with
  | .repl =>
    let options : Session.Options :=
      { depth
        historyFile := settings.historyFile
        historySize := settings.historySize
        terminal := (vars.get? "TERM").getD "" }
    (Session.run options w).map fun r => (r.world, if r.crashed then .crashed else .done)
  | .run (some text) _ => runText depth text w
  | .run none files =>
    match runFiles depth files w with
    | none => none
    | some (.ok n, w') => some (w', failureEnd n)
    | some (.error message, w') => some (w', .failed message)

/-- Is there nothing to run? -/
def Task.isIdle : Task → Bool
  | .run none [] => true
  | _ => false

/-- The exit code of a run that was cut off because it nested too deeply. -/
def overflowCode : Nat := 134

/-- Starts a task with its stack. -/
def start (settings : Settings) (vars : Variables) (task : Task) (w : World) : Exit :=
  if task.isIdle then
    .ofWorld 1 (w.complain "Either --eval or file paths must be provided")
  else
    match checkStack settings.stackSize with
    | .error e => .ofWorld 1 (w.complain e.message)
    | .ok () =>
      match perform settings vars task w with
      | none => .ofWorld overflowCode (w.complain "evaluation nested too deeply")
      | some (w', job) =>
        match job.outcome with
        | .ok () => .ofWorld 0 w'
        | .error e => .ofWorld 1 (w'.complain e.message)

def versionText : String :=
  "aaqz " ++ Session.versionNumber ++ "\n"

def usageText : String :=
  "AAQZ - an eager, lexically scoped expression language\n\n" ++
  "Usage: aaqz [OPTIONS] [COMMAND]\n\n" ++
  "Commands:\n" ++
  "  repl  Start an interactive REPL\n" ++
  "  run   Run AAQZ code\n" ++
  "  help  Print this message or the help of the given subcommand(s)\n\n" ++
  "Options:\n" ++
  "      --stack-size <STACK_SIZE>  Stack size of the evaluation thread, in MiB " ++
  "[env: AAQZ_STACK_SIZE=] [default: 64]\n" ++
  "  -h, --help                     Print help\n" ++
  "  -V, --version                  Print version\n"

/-- The exit code of a run whose arguments are wrong. -/
def usageCode : Nat := 2

/-- A run of the command. -/
def run (i : Invocation) : Exit :=
  match parseArguments i.vars i.args with
  | .error e => ⟨usageCode, "", "error: " ++ e.message ++ "\n", i.files⟩
  | .ok .help => ⟨0, usageText, "", i.files⟩
  | .ok .version => ⟨0, versionText, "", i.files⟩
  | .ok (.start stackSize task) =>
    start (Settings.ofVariables i.vars stackSize) i.vars task
      { stdin := i.stdin, files := i.files, palette := palette i.vars }

end ArrowLisp.Command
