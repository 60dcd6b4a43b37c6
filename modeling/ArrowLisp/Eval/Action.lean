import ArrowLisp.Eval.Error

/-!
# Actions on a console

An action is given the state of a console and returns a result with the state after it. The
absence of any result means that the evaluation went deeper than it was allowed to; it says nothing
about the program. A result is a value or an error, and the state after an error is kept.
-/

namespace ArrowLisp

/-- Actions with a console `σ` that give an `α` or fail. -/
def Action (σ α : Type) : Type :=
  σ → Option (Except EvalError α × σ)

namespace Action

variable {σ α β : Type}

protected def pure (a : α) : Action σ α :=
  fun s => some (.ok a, s)

protected def bind (act : Action σ α) (next : α → Action σ β) : Action σ β :=
  fun s =>
    match act s with
    | none => none
    | some (.ok a, s') => next a s'
    | some (.error e, s') => some (.error e, s')

instance : Monad (Action σ) where
  pure := Action.pure
  bind := Action.bind

/-- Gives up: the depth allowance is used up. -/
def tooDeep : Action σ α :=
  fun _ => none

def fail (cause : Cause) : Action σ α :=
  fun s => some (.error { cause }, s)

/-- Marks the errors of an action as coming out of a step. -/
def within (step : Step) (act : Action σ α) : Action σ α :=
  fun s =>
    match act s with
    | some (.error e, s') => some (.error (e.within step), s')
    | r => r

/-- Asks the console for something; a failure of the console is an error. -/
def ask (request : σ → Except ConsoleFailure α × σ) : Action σ α :=
  fun s =>
    match request s with
    | (.ok a, s') => some (.ok a, s')
    | (.error failure, s') => some (.error { cause := .console failure }, s')

/-- Takes a line from the console. -/
def takeLine [Console σ] : Action σ String :=
  ask Console.takeLine

def print [Console σ] (text : String) : Action σ Unit :=
  ask (Console.print text)

/-- Prints a text and a newline. -/
def printLine [Console σ] (text : String) : Action σ Unit :=
  ask (Console.printLine text)

end Action

end ArrowLisp
