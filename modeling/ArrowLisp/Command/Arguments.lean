import ArrowLisp.Command.Settings

/-!
# Arguments

`[--stack-size N] [repl | run [-e|--eval TEXT] [FILES...]]`. The stack size may stand before or
after the command. An option takes its value after an equals sign or as the next argument; the next
argument cannot be a value if it starts with a dash and goes on. Two dashes end the options. The
arguments are gone through from left to right, and the first that asks for help or the version, or
is wrong, decides.

The stack size is an option of the whole and of the command alike. Each of the two falls back to
the variable when its own option is absent, so a variable that is no size is an error unless the
option is given wherever it could be.
-/

namespace ArrowLisp.Command

/-- What a run is asked to do. -/
inductive Task where
  | repl
  | run (text : Option String) (files : List String)
deriving DecidableEq, Repr

/-- What the arguments ask for. -/
inductive Request where
  | help
  | version
  | start (stackSize : Nat) (task : Task)
deriving DecidableEq, Repr

inductive ArgumentError where
  | unexpected (argument : String)
  | missingValue (option : String)
  | repeatedOption (option : String)
  | notSize (text : String)
  | unknownCommand (name : String)
deriving DecidableEq, Repr

def ArgumentError.message : ArgumentError → String
  | .unexpected argument => "unexpected argument '" ++ argument ++ "' found"
  | .missingValue option => "a value is required for '" ++ option ++ "' but none was supplied"
  | .repeatedOption option =>
    "the argument '" ++ option ++ "' cannot be used multiple times"
  | .notSize text => "invalid value '" ++ text ++ "' for '--stack-size <STACK_SIZE>'"
  | .unknownCommand name => "unrecognized subcommand '" ++ name ++ "'"

/-- How a single argument looks while options are still possible. -/
inductive Shape where
  /-- Two dashes. -/
  | endOfOptions
  | long (name : String) (value : Option String)
  /-- A dash and letters. -/
  | short (letter : Char) (rest : List Char)
  | plain

/-- The text before the first equals sign, and the text after it. -/
def splitValue (cs : List Char) : String × Option String :=
  let name := String.ofList (cs.takeWhile (· ≠ '='))
  match cs.dropWhile (· ≠ '=') with
  | [] => (name, none)
  | _ :: value => (name, some (String.ofList value))

def Shape.of (argument : String) : Shape :=
  match argument.toList with
  | ['-', '-'] => .endOfOptions
  | '-' :: '-' :: cs => .long (splitValue cs).1 (splitValue cs).2
  | '-' :: letter :: rest => .short letter rest
  | _ => .plain

/-- Can the argument be the value of the option before it? -/
def isValue (argument : String) : Bool :=
  match Shape.of argument with
  | .plain => true
  | _ => false

/-- An option with its value, or an argument of another kind. -/
inductive Token where
  | help
  | version
  /-- A stack size, and whether the value is attached by an equals sign; it may be missing. -/
  | stackSize (attached : Bool) (value : Option String)
  /-- A program text; the value may be missing. -/
  | text (value : Option String)
  /-- An argument that is no option, and all arguments after it. -/
  | plain (text : String) (rest : List String)
  /-- Two dashes, and all arguments after them. -/
  | literal (rest : List String)
  | unknown (argument : String)

/-- The option an argument names, with the value attached to it. -/
inductive Named where
  | valued (option : Option String → Token) (attached : Option String)
  | other (token : Token)

/-- Which option an argument names. -/
def Named.of (argument : String) (rest : List String) : Named :=
  match Shape.of argument with
  | .endOfOptions => .other (.literal rest)
  | .plain => .other (.plain argument rest)
  | .long name value =>
    if name = "stack-size" then .valued (.stackSize value.isSome) value
    else if name = "eval" then .valued .text value
    else if name = "help" ∧ value = none then .other .help
    else if name = "version" ∧ value = none then .other .version
    else .other (.unknown argument)
  | .short letter cs =>
    if letter = 'e' then
      match cs with
      | [] => .valued .text none
      | '=' :: value => .valued .text (some (String.ofList value))
      | value => .valued .text (some (String.ofList value))
    else if letter = 'h' then .other .help
    else if letter = 'V' then .other .version
    else .other (.unknown argument)

/-- The arguments as options with their values, in order, up to an option that lacks its value. -/
def tokens : List String → List Token
  | [] => []
  | argument :: rest =>
    match Named.of argument rest with
    | .other token => token :: tokens rest
    | .valued option (some value) => option (some value) :: tokens rest
    | .valued option none =>
      match rest with
      | [] => [option none]
      | value :: rest' =>
        if isValue value then option (some value) :: tokens rest' else [option none]

/-- Either an answer that ends the run at once, or the result of going on. -/
inductive Scan (α : Type) where
  | wrong (e : ArgumentError)
  | help
  | version
  | value (a : α)

/-- The options of a command gone through so far. -/
structure Options where
  stackSize : Option Nat := none
  text : Option String := none
  files : List String := []

def stackSizeOption : String := "--stack-size"

def textOption : String := "--eval"

/-- Takes note of a stack size. -/
def Options.withStackSize (o : Options) (value : String) : Except ArgumentError Options :=
  match o.stackSize, parseSize value.toList with
  | some _, _ => .error (.repeatedOption stackSizeOption)
  | none, some n => .ok { o with stackSize := some n }
  | none, none => .error (.notSize value)

/-- Takes note of a program text. -/
def Options.withText (o : Options) (value : String) : Except ArgumentError Options :=
  match o.text with
  | some _ => .error (.repeatedOption textOption)
  | none => .ok { o with text := some value }

/-- Goes through the options of the command that runs programs. -/
def scanRun (o : Options) : List Token → Scan Options
  | [] => .value o
  | .help :: _ => .help
  | .version :: _ => .wrong (.unexpected "--version")
  | .unknown argument :: _ => .wrong (.unexpected argument)
  | .literal rest :: _ => .value { o with files := o.files ++ rest }
  | .plain file _ :: more => scanRun { o with files := o.files ++ [file] } more
  | .stackSize _ none :: _ => .wrong (.missingValue stackSizeOption)
  | .text none :: _ => .wrong (.missingValue textOption)
  | .stackSize _ (some value) :: more =>
    match o.withStackSize value with
    | .ok o' => scanRun o' more
    | .error e => .wrong e
  | .text (some value) :: more =>
    match o.withText value with
    | .ok o' => scanRun o' more
    | .error e => .wrong e

/-- Goes through the options of the command that starts a session. -/
def scanRepl (o : Options) : List Token → Scan Options
  | [] => .value o
  | .help :: _ => .help
  | .version :: _ => .wrong (.unexpected "--version")
  | .unknown argument :: _ => .wrong (.unexpected argument)
  | .literal [] :: _ => .value o
  | .literal (extra :: _) :: _ => .wrong (.unexpected extra)
  | .plain extra _ :: _ => .wrong (.unexpected extra)
  | .text _ :: _ => .wrong (.unexpected textOption)
  | .stackSize _ none :: _ => .wrong (.missingValue stackSizeOption)
  | .stackSize _ (some value) :: more =>
    match o.withStackSize value with
    | .ok o' => scanRepl o' more
    | .error e => .wrong e

/-- What stands before the command, and the command with its arguments. A stack size that is
attached to its option is checked at once. One that stands by itself is checked when the next option
is reached, or else after the arguments of the command. -/
structure Front where
  options : Options := {}
  unchecked : Option String := none
  command : Option (String × List String) := none

/-- Checks the stack size that still waits for it. -/
def Front.settle (f : Front) : Except ArgumentError Front :=
  match f.unchecked with
  | none => .ok f
  | some value =>
    match f.options.withStackSize value with
    | .ok options => .ok { f with options, unchecked := none }
    | .error e => .error e

/-- Goes through the options before the command. -/
def scanFront (f : Front) : List Token → Scan Front
  | [] => .value f
  | .plain name rest :: _ => .value { f with command := some (name, rest) }
  | token :: more =>
    match f.settle with
    | .error e => .wrong e
    | .ok f =>
      match token with
      | .help => .help
      | .version => .version
      | .stackSize true (some value) =>
        match f.options.withStackSize value with
        | .ok options => scanFront { f with options } more
        | .error e => .wrong e
      | .stackSize false (some value) => scanFront { f with unchecked := some value } more
      | .stackSize _ none => .wrong (.missingValue stackSizeOption)
      | .text _ => .wrong (.unexpected textOption)
      | .literal [] => .value f
      | .literal (extra :: _) => .wrong (.unexpected extra)
      | .plain extra _ => .wrong (.unexpected extra)
      | .unknown argument => .wrong (.unexpected argument)

/-- The stack size of one level: its own option, or else the variable. -/
def levelStackSize (own : Option Nat) (fromVariable : Option String) :
    Except ArgumentError (Option Nat) :=
  match own, fromVariable with
  | some n, _ => .ok (some n)
  | none, none => .ok none
  | none, some text =>
    match parseSize text.toList with
    | some n => .ok (some n)
    | none => .error (.notSize text)

/-- The names the help command explains. -/
def isHelpTopic : List String → Bool
  | [] => true
  | [name] => ["repl", "run", "help"].contains name
  | _ => false

/-- The request with the stack size that the two levels settle on. -/
def startRequest (vars : Variables) (front : Front) (options : Options) (task : Task) :
    Except ArgumentError Request := do
  let fromVariable := vars.get? stackSizeVariable
  let inner ← levelStackSize options.stackSize fromVariable
  let front ← front.settle
  let outer ← levelStackSize front.options.stackSize fromVariable
  let given := options.stackSize.or (front.options.stackSize.or (inner.or outer))
  return .start (given.getD defaultStackSize) task

/-- What the arguments and variables ask for. -/
def parseArguments (vars : Variables) (args : List String) : Except ArgumentError Request :=
  match scanFront {} (tokens args) with
  | .wrong e => .error e
  | .help => .ok .help
  | .version => .ok .version
  | .value front =>
    match front.command with
    | none => do
      let front ← front.settle
      let size ← levelStackSize front.options.stackSize (vars.get? stackSizeVariable)
      return .start (size.getD defaultStackSize) .repl
    | some ("help", topic) =>
      if isHelpTopic topic then .ok .help else .error (.unknownCommand (" ".intercalate topic))
    | some ("repl", rest) =>
      match scanRepl {} (tokens rest) with
      | .wrong e => .error e
      | .help => .ok .help
      | .version => .ok .version
      | .value o => startRequest vars front o .repl
    | some ("run", rest) =>
      match scanRun {} (tokens rest) with
      | .wrong e => .error e
      | .help => .ok .help
      | .version => .ok .version
      | .value o => startRequest vars front o (.run o.text o.files)
    | some (name, _) => .error (.unknownCommand name)

end ArrowLisp.Command
