import ArrowLisp.Eval
import ArrowLisp.Expr.OfDatum

/-!
# Running program texts

Two ways to run the expressions of a text, one after another in one scope. `runSource` reads and
evaluates in turn, so what stands before an unreadable place has been evaluated when the place is
found; it counts failures and goes on after them. `runEntry` evaluates nothing unless the whole
text reads, and gives the outcome of every expression.
-/

namespace ArrowLisp

/-- Why one expression of a text has no value. -/
inductive Failure where
  | parse (e : ParseError)
  | eval (e : EvalError)

def Failure.message : Failure → String
  | .parse e => "Parse error: " ++ e.message
  | .eval e => e.message

/-- The value of one expression, or why it has none. -/
abbrev Outcome := Except Failure Value

/-- Is the expression without a value? -/
def Outcome.failed : Outcome → Bool
  | .ok _ => false
  | .error _ => true

variable {σ : Type} [Console σ]

/-- Evaluates the expression that a datum writes. -/
def runDatum (depth : Nat) (scope : Scope) (d : Datum) (s : σ) : Option (Outcome × σ) :=
  match Expr.ofDatum d with
  | .error e => some (.error (.parse e), s)
  | .ok e =>
    match eval depth e scope s with
    | none => none
    | some (.ok v, s') => some (.ok v, s')
    | some (.error e, s') => some (.error (.eval e), s')

/-- Shows an outcome: failures are reported, values announced if `echo` is set. -/
def showOutcome (echo : Bool) (outcome : Outcome) (s : σ) : σ :=
  match outcome with
  | .ok v => if echo then Console.announce v.render s else s
  | .error f => Console.report f.message s

/-- Reads and evaluates in turn; gives the number of failures, or the fault at which reading
stopped. -/
def runSource (echo : Bool) (depth : Nat) (scope : Scope) (cs : List Char) (s : σ) :
    Option (Except ParseError Nat × σ) :=
  match _h : read cs with
  | .error e => some (.error e, s)
  | .ok none => some (.ok 0, s)
  | .ok (some (d, rest)) =>
    match runDatum depth scope d s with
    | none => none
    | some (outcome, s') =>
      match runSource echo depth scope rest (showOutcome echo outcome s') with
      | none => none
      | some (.error e, s'') => some (.error e, s'')
      | some (.ok n, s'') => some (.ok (if outcome.failed then n + 1 else n), s'')
termination_by cs.length
decreasing_by exact length_of_read _h

/-- Evaluates data one after another. -/
def runData (depth : Nat) (scope : Scope) : List Datum → σ → Option (List Outcome × σ)
  | [], s => some ([], s)
  | d :: rest, s =>
    match runDatum depth scope d s with
    | none => none
    | some (outcome, s') =>
      match runData depth scope rest s' with
      | none => none
      | some (outcomes, s'') => some (outcome :: outcomes, s'')

/-- Evaluates every expression of a text, provided that all of it reads. -/
def runEntry (depth : Nat) (scope : Scope) (cs : List Char) (s : σ) :
    Option (Except ParseError (List Outcome) × σ) :=
  match readAll cs with
  | .error e => some (.error e, s)
  | .ok ds =>
    match runData depth scope ds s with
    | none => none
    | some (outcomes, s') => some (.ok outcomes, s')

end ArrowLisp
