import ArrowLisp.Console
import ArrowLisp.Value

/-!
# Evaluation errors

An error is a cause together with the trail of steps it came through, outermost first. Its message
is the account of each step and then of the cause.
-/

namespace ArrowLisp

/-- How many arguments an operation takes. -/
inductive Arity where
  | exactly (n : Nat)
  | atLeast (n : Nat)
deriving DecidableEq, Repr

namespace Arity

def accepts : Arity → Nat → Bool
  | .exactly n, count => count == n
  | .atLeast n, count => decide (n ≤ count)

def render : Arity → String
  | .exactly n => toString n
  | .atLeast n => "at least " ++ toString n

end Arity

/-- What the operands of an operation have to be. -/
inductive Operands where
  | aString
  | twoNumbers
deriving DecidableEq, Repr

def Operands.render : Operands → String
  | .aString => "a string"
  | .twoNumbers => "two numbers"

/-- The step of an evaluation that an error came out of. -/
inductive Step where
  | condition
  | callee
  /-- The argument at this place, counted from zero. -/
  | argument (index : Nat)
  | primitive (name : String)
deriving DecidableEq, Repr

def Step.render : Step → String
  | .condition => "error evaluating condition"
  | .callee => "error evaluating function position"
  | .argument index => "error evaluating argument " ++ toString (index + 1)
  | .primitive name => "error applying primitive `" ++ name ++ "`"

/-- What went wrong. -/
inductive Cause where
  | unbound (name : String)
  | notTruth (value : Value)
  | notCallable (value : Value)
  | wrongCount (expected : Arity) (args : List Value)
  | wrongOperands (name : String) (expected : Operands) (args : List Value)
  | divisionByZero (args : List Value)
  /-- A value that cannot be joined into a text. -/
  | notJoinable (value : Value)
  | unknownOperation (name : String) (args : List Value)
  /-- Raised by the program itself. -/
  | raised (text : String)
  /-- A typed line that is not a number. -/
  | notNumber (line : String)
  | console (failure : ConsoleFailure)
deriving Inhabited

def Cause.message : Cause → String
  | .unbound name => "name not found: " ++ name
  | .notTruth v => "condition must be a boolean, got: " ++ v.render
  | .notCallable v => "value is not callable: " ++ v.render
  | .wrongCount expected args =>
    "wrong number of arguments: expected " ++ expected.render ++ ", got " ++
      toString args.length ++ ": " ++ Value.renderAll args
  | .wrongOperands name expected args =>
    "`" ++ name ++ "` expects " ++ expected.render ++ ", got: " ++ Value.renderAll args
  | .divisionByZero args => "division by zero, got: " ++ Value.renderAll args
  | .notJoinable v => "unsupported value type for ++: " ++ v.render
  | .unknownOperation name args =>
    "unknown operation `" ++ name ++ "`, got: " ++ Value.renderAll args
  | .raised text => "user-error: " ++ text
  | .notNumber line => "invalid input, not a real number: " ++ Text.quoted line
  | .console failure => "i/o failure: " ++ failure.message

structure EvalError where
  /-- The steps the error came through, outermost first. -/
  trail : List Step := []
  cause : Cause
deriving Inhabited

namespace EvalError

/-- The error seen from one step further out. -/
def within (step : Step) (e : EvalError) : EvalError :=
  { e with trail := step :: e.trail }

def message (e : EvalError) : String :=
  e.trail.foldr (fun step rest => step.render ++ ": " ++ rest) e.cause.message

end EvalError

end ArrowLisp
