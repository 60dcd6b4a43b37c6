import ArrowLisp.Number.Decimal
import ArrowLisp.Text.Blank

/-!
# Settings

What a run takes from its variables: where the history is kept and how long it may get. A size is
a natural number below `2 ^ 64` in decimal digits, with an optional plus sign.
-/

namespace ArrowLisp.Command

/-- The variables of a process. -/
abbrev Variables := List (String × String)

def Variables.get? (vars : Variables) (name : String) : Option String :=
  (vars.find? (·.1 == name)).map (·.2)

/-- A size written in decimal digits. -/
def parseSize (cs : List Char) : Option Nat :=
  let ds := if cs.head? = some '+' then cs.drop 1 else cs
  if ds.isEmpty || !ds.all Char.isDigit then none
  else if Number.digitsValue ds < Nat.pow 2 64 then some (Number.digitsValue ds) else none

def defaultStackSize : Nat := 64

def defaultHistorySize : Nat := 1000

/-- The history size that a variable asks for; blanks around it do not matter, and anything that
is no size asks for the default. -/
def historySize (raw : Option String) : Nat :=
  (raw.bind fun text => parseSize (Text.trim text.toList)).getD defaultHistorySize

def historyFileVariable : String := "AAQZ_REPL_HISTORY"

def historySizeVariable : String := "AAQZ_REPL_HISTORY_SIZE"

def stackSizeVariable : String := "AAQZ_STACK_SIZE"

def historyFileName : String := ".aaqz_history"

/-- Appends a name to a directory, with one slash between them. -/
def joinPath (directory name : String) : String :=
  if directory.toList.getLast? = some '/' then directory ++ name else directory ++ "/" ++ name

/-- The home directory of the account, for a process that is not told any. -/
def accountHome : String := "/root"

/-- The home directory: the one a variable names, unless it is empty, or that of the account. -/
def homeDirectory (vars : Variables) : String :=
  match vars.get? "HOME" with
  | some home => if home = "" then accountHome else home
  | none => accountHome

/-- The history file: the one a variable names, or a fixed name in the home directory. -/
def historyFile (vars : Variables) : String :=
  match vars.get? historyFileVariable with
  | some path => path
  | none => joinPath (homeDirectory vars) historyFileName

structure Settings where
  /-- The stack for evaluation, in MiB. -/
  stackSize : Nat
  historyFile : String
  historySize : Nat
deriving DecidableEq, Repr

def Settings.ofVariables (vars : Variables) (stackSize : Nat) : Settings :=
  { stackSize
    historyFile := Command.historyFile vars
    historySize := Command.historySize (vars.get? historySizeVariable) }

end ArrowLisp.Command
