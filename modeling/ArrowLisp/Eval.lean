import ArrowLisp.Eval.Primitive
import ArrowLisp.Scope

/-!
# Evaluation

Eager evaluation in a scope. The first argument of `eval` bounds how deeply evaluations may nest;
with too small a bound there is no result, and any larger bound that gives a result gives the same
one. Errors are marked with the step they come out of, except that the body of a closure adds no
step of its own.
-/

namespace ArrowLisp

variable {σ : Type} [Console σ]

/-- Evaluates arguments from left to right; the number is the place of the first one. -/
def evalArgs {ε ν : Type} (evalOne : ε → Action σ ν) : Nat → List ε → Action σ (List ν)
  | _, [] => pure []
  | index, e :: rest => do
    let v ← (evalOne e).within (.argument index)
    let vs ← evalArgs evalOne (index + 1) rest
    return v :: vs

/-- Applies a value to arguments, given how to evaluate the body of a closure. -/
def applyWith (evalBody : Expr → Scope → Action σ Value) (callee : Value) (args : List Value) :
    Action σ Value :=
  match callee with
  | .primitive name => (Primitive.apply name args).within (.primitive name)
  | .closure params body scope =>
    if params.length = args.length then evalBody body (scope.extend params args)
    else Action.fail (.wrongCount (.exactly params.length) args)
  | other => Action.fail (.notCallable other)

/-- Evaluates an expression in a scope, nesting at most `depth` evaluations. -/
def eval : Nat → Expr → Scope → Action σ Value
  | 0, _, _ => Action.tooDeep
  | depth + 1, e, scope =>
    match e with
    | .number x => pure (.number x)
    | .text s => pure (.text s)
    | .name x =>
      match scope.lookup x with
      | some v => pure v
      | none => Action.fail (.unbound x)
    | .branch c t e => do
      match ← (eval depth c scope).within .condition with
      | .truth true => eval depth t scope
      | .truth false => eval depth e scope
      | other => Action.fail (.notTruth other)
    | .function params body => pure (.closure params body scope)
    | .call callee args => do
      let f ← (eval depth callee scope).within .callee
      if f.isCallable then
        let vs ← evalArgs (fun a => eval depth a scope) 0 args
        applyWith (eval depth) f vs
      else Action.fail (.notCallable f)

/-- Applies a value to arguments, nesting at most `depth` evaluations. -/
def apply (depth : Nat) (callee : Value) (args : List Value) : Action σ Value :=
  applyWith (eval depth) callee args

end ArrowLisp
