import ArrowLisp.Proofs.Simulation

/-!
# Evaluation by substitution

A second semantics, without scopes. Its terms are expressions with values put in place of names,
and a call puts its arguments in place of the parameters, all at once. A value that stands in a
term is never looked into again, so no name of it can be captured. The top-level bindings are put
into a program before it is run. Evaluation in the top-level scope and evaluation by substitution
give the same results.
-/

namespace ArrowLisp

namespace Substitution

mutual

/-- Expressions in which values may stand. -/
inductive Term where
  | number (x : Float)
  | text (s : String)
  | name (x : String)
  | branch (condition whenTrue whenFalse : Term)
  | function (params : List String) (body : Term)
  | call (callee : Term) (args : List Term)
  | value (v : Val)

/-- The values of terms. A function value is its parameters and its body, and captures nothing. -/
inductive Val where
  | number (x : Float)
  | text (s : String)
  | truth (b : Bool)
  | lambda (params : List String) (body : Term)
  | primitive (name : String)

end

/-- What to put in place of names. -/
abbrev Assignment : Type := String → Option Val

namespace Assignment

/-- Leaves the given names alone. -/
def hide (params : List String) (m : Assignment) : Assignment :=
  fun x => if x ∈ params then none else m x

/-- The first assignment, and the second where it says nothing. -/
def orElse (m m' : Assignment) : Assignment :=
  fun x => (m x).or (m' x)

/-- Parameters with their arguments; the later of two equal parameters counts. -/
def ofArguments : List String → List Val → Assignment
  | p :: ps, v :: vs => (ofArguments ps vs).orElse fun x => if x = p then some v else none
  | _, _ => fun _ => none

/-- The built-in operations and the two truth values. -/
def topLevel : Assignment :=
  fun x =>
    if x = "true" then some (.truth true)
    else if x = "false" then some (.truth false)
    else if x ∈ primitiveNames then some (.primitive x)
    else none

end Assignment

namespace Term

mutual

/-- An expression as a term. -/
def ofExpr : Expr → Term
  | .number x => .number x
  | .text s => .text s
  | .name x => .name x
  | .branch c t e => .branch (ofExpr c) (ofExpr t) (ofExpr e)
  | .function params body => .function params (ofExpr body)
  | .call callee args => .call (ofExpr callee) (ofExprs args)

def ofExprs : List Expr → List Term
  | [] => []
  | e :: rest => ofExpr e :: ofExprs rest

end

mutual

/-- Puts values in place of the free names of a term, all at once. -/
def subst (m : Assignment) : Term → Term
  | .number x => .number x
  | .text s => .text s
  | .name x =>
    match m x with
    | some v => .value v
    | none => .name x
  | .branch c t e => .branch (subst m c) (subst m t) (subst m e)
  | .function params body => .function params (subst (m.hide params) body)
  | .call callee args => .call (subst m callee) (substAll m args)
  | .value v => .value v

def substAll (m : Assignment) : List Term → List Term
  | [] => []
  | t :: rest => subst m t :: substAll m rest

end

end Term

namespace Val

/-- A value as messages and built-in operations see it: of a function, only that it is one. -/
def outline : Val → Value
  | .number x => .number x
  | .text s => .text s
  | .truth b => .truth b
  | .lambda .. => .closure [] (.text "") .empty
  | .primitive name => .primitive name

/-- A value that captures nothing. -/
def ofValue : Value → Val
  | .number x => .number x
  | .text s => .text s
  | .truth b => .truth b
  | .closure params body _ => .lambda params (Term.ofExpr body)
  | .primitive name => .primitive name

end Val

section Evaluator

variable {σ : Type} [Console σ]

/-- Performs a built-in operation. Only `seq` can hand a function on; all others make new data. -/
def applyPrimitive (name : String) (args : List Val) : Action σ Val :=
  if name = "seq" then
    match args.getLast? with
    | some v => pure v
    | none => Action.fail (.wrongCount (.atLeast 1) [])
  else do
    let v ← Primitive.apply name (args.map Val.outline)
    return Val.ofValue v

/-- Evaluates arguments after those that are `done`, the leftmost first. The place of an argument is
the number of those before it. -/
def evalRow (evalOne : Term → Action σ Val) (done : List Val) : List Term → Action σ (List Val)
  | [] => pure done
  | t :: rest => do
    let v ← (evalOne t).within (.argument done.length)
    evalRow evalOne (done ++ [v]) rest

/-- Applies a value to arguments, given how to evaluate a body. -/
def applyWith (evalBody : Term → Action σ Val) (callee : Val) (args : List Val) : Action σ Val :=
  match callee with
  | .primitive name => (applyPrimitive name args).within (.primitive name)
  | .lambda params body =>
    if params.length = args.length then evalBody (body.subst (.ofArguments params args))
    else Action.fail (.wrongCount (.exactly params.length) (args.map Val.outline))
  | other => Action.fail (.notCallable other.outline)

/-- Evaluates a term, nesting at most `depth` evaluations. A name that is still there is bound
nowhere. -/
def eval : Nat → Term → Action σ Val
  | 0, _ => Action.tooDeep
  | depth + 1, t =>
    match t with
    | .number x => pure (.number x)
    | .text s => pure (.text s)
    | .name x => Action.fail (.unbound x)
    | .value v => pure v
    | .branch c t e => do
      match ← (eval depth c).within .condition with
      | .truth true => eval depth t
      | .truth false => eval depth e
      | other => Action.fail (.notTruth other.outline)
    | .function params body => pure (.lambda params body)
    | .call callee args => do
      let f ← (eval depth callee).within .callee
      if f.outline.isCallable then
        let vs ← evalRow (eval depth) [] args
        applyWith (eval depth) f vs
      else Action.fail (.notCallable f.outline)

/-- Runs a program: puts the top-level bindings into it and evaluates what that gives. -/
def run (depth : Nat) (e : Expr) : Action σ Val :=
  eval depth ((Term.ofExpr e).subst .topLevel)

end Evaluator

/-! ## Assignments -/

namespace Assignment

theorem hide_orElse (params : List String) (m m' : Assignment) :
    (m.orElse m').hide params = (m.hide params).orElse (m'.hide params) := by
  funext x
  by_cases hx : x ∈ params <;> simp [hide, orElse, hx]

theorem orElse_assoc (m m' m'' : Assignment) :
    (m.orElse m').orElse m'' = m.orElse (m'.orElse m'') := by
  funext x
  exact Option.or_assoc

theorem ofArguments_of_not_mem {params : List String} {x : String} (h : x ∉ params)
    (args : List Val) : ofArguments params args x = none := by
  induction params generalizing args with
  | nil => rfl
  | cons p params ih =>
      obtain ⟨hne, hmem⟩ := not_or.1 (mt List.mem_cons.2 h)
      cases args with
      | nil => rfl
      | cons v args => simp [ofArguments, orElse, ih hmem, hne]

theorem ofArguments_of_mem {params : List String} {args : List Val} {x : String}
    (hlen : params.length = args.length) (h : x ∈ params) :
    (ofArguments params args x).isSome = true := by
  induction params generalizing args with
  | nil => cases h
  | cons p params ih =>
      cases args with
      | nil => cases hlen
      | cons v args =>
          by_cases hmem : x ∈ params
          · simp [ofArguments, orElse, ih (Nat.succ.inj hlen) hmem]
          · obtain rfl : x = p := (List.mem_cons.1 h).resolve_right hmem
            simp [ofArguments, orElse]

/-- With one argument to each parameter, hiding the parameters makes room for the arguments. -/
theorem hide_orElse_ofArguments {params : List String} {args : List Val}
    (hlen : params.length = args.length) (m : Assignment) :
    (m.hide params).orElse (ofArguments params args) = (ofArguments params args).orElse m := by
  funext x
  by_cases hx : x ∈ params
  · obtain ⟨v, hv⟩ := Option.isSome_iff_exists.1 (ofArguments_of_mem hlen hx)
    simp [orElse, hide, hx, hv]
  · simp [orElse, hide, hx, ofArguments_of_not_mem hx]

end Assignment

namespace Term

mutual

/-- Two substitutions in a row are one: what the first puts in is left alone by the second. -/
theorem subst_subst (m m' : Assignment) : ∀ t : Term, (t.subst m).subst m' = t.subst (m.orElse m')
  | .number _ => by simp only [subst]
  | .text _ => by simp only [subst]
  | .value _ => by simp only [subst]
  | .name x => by
      cases hx : m x with
      | some v => simp [subst, Assignment.orElse, hx]
      | none => simp [subst, Assignment.orElse, hx]
  | .branch c t e => by
      simp only [subst, subst_subst m m' c, subst_subst m m' t, subst_subst m m' e]
  | .function params body => by
      simp only [subst, subst_subst (m.hide params) (m'.hide params) body,
        Assignment.hide_orElse]
  | .call callee args => by
      simp only [subst, subst_subst m m' callee, substAll_substAll m m' args]

theorem substAll_substAll (m m' : Assignment) : ∀ ts : List Term,
    substAll m' (substAll m ts) = substAll (m.orElse m') ts
  | [] => by simp only [substAll]
  | t :: ts => by simp only [substAll, subst_subst m m' t, substAll_substAll m m' ts]

end

end Term

end Substitution

end ArrowLisp
