import ArrowLisp.Proofs.OperationFailures
import ArrowLisp.Proofs.ScopeChain

/-!
# The trail of an error

An error is marked on its way out with each step it comes through: conditions, callees, arguments
and, nearest to the cause, the built-in operation that failed. So the innermost step of the trail
and the cause tell the same story. Operations are entered with values and evaluate nothing, hence no
step of theirs stands further out; the bodies of closures leave no step at all.
-/

namespace ArrowLisp

/-! ## Innermost steps -/

/-- The built-in operation that a step applies. -/
def Step.operation? : Step → Option String
  | .primitive name => some name
  | _ => none

theorem Step.operation?_eq_none {step : Step} (h : ∀ name, step ≠ .primitive name) :
    step.operation? = none := by
  cases step with
  | primitive name => exact absurd rfl (h name)
  | _ => rfl

/-- The built-in operation that failed, if the innermost step applies one. -/
def EvalError.operation? (e : EvalError) : Option String :=
  e.trail.getLast?.bind Step.operation?

/-- A step that applies no operation hides none that an inner step applies. -/
theorem EvalError.operation?_within {step : Step} (h : step.operation? = none) (e : EvalError) :
    (e.within step).operation? = e.operation? := by
  show (step :: e.trail).getLast?.bind Step.operation? = e.trail.getLast?.bind Step.operation?
  cases htrail : e.trail with
  | nil => simpa using h
  | cons inner rest => rw [List.getLast?_cons_cons]

/-- What the cause of an error tells of the operation that failed, if any did. Closures complain of
a wrong number of arguments too; `Takes` are the numbers of parameters that closures can have. -/
def Cause.ComesOutOf (Takes : Nat → Prop) (operation : Option String) : Cause → Prop
  | .unbound _ => operation = none
  | .notTruth _ => operation = none
  | .notCallable _ => operation = none
  | .wrongCount expected args =>
    expected.accepts args.length = false ∧
      match operation with
      | some name => expected = Arity.ofOperation name
      | none => ∃ n, Takes n ∧ expected = .exactly n
  | .wrongOperands name _ _ => operation = some name
  | .divisionByZero _ => operation = some "/"
  | .notJoinable _ => operation = some "++"
  | .unknownOperation name _ => operation = some name
  | .raised _ => operation = some "error"
  | .notNumber _ => operation = some "read-num"
  | .console _ => ∃ name ∈ ["println", "read-num", "read-str"], operation = some name

theorem Cause.OfOperation.comesOutOf {Takes : Nat → Prop} {name : String} {cause : Cause}
    (h : cause.OfOperation name) : cause.ComesOutOf Takes (some name) := by
  cases cause with
  | unbound _ => exact h.elim
  | notTruth _ => exact h.elim
  | notCallable _ => exact h.elim
  | wrongCount expected args => exact ⟨h.2, h.1⟩
  | unknownOperation other args => exact congrArg some h.1.symm
  | console failure => exact ⟨name, h, rfl⟩
  | wrongOperands other expected args => exact congrArg some h.symm
  | _ => exact congrArg some h

/-- Only the innermost step may apply an operation, and the cause fits it. -/
def EvalError.WellMarked (Takes : Nat → Prop) (e : EvalError) : Prop :=
  (∀ step ∈ e.trail.dropLast, step.operation? = none) ∧ e.cause.ComesOutOf Takes e.operation?

namespace EvalError.WellMarked

variable {Takes : Nat → Prop}

/-- An error that no step has marked comes out of no operation. -/
theorem fresh {cause : Cause} (h : cause.ComesOutOf Takes none) :
    WellMarked Takes { cause } :=
  ⟨by simp, h⟩

/-- The error of an operation, marked with that operation. -/
theorem operation {name : String} {cause : Cause} (h : cause.OfOperation name) :
    WellMarked Takes (EvalError.within (.primitive name) { cause }) :=
  ⟨by simp [EvalError.within], h.comesOutOf⟩

/-- Every other step may be put in front. -/
theorem within {step : Step} (hstep : step.operation? = none) {e : EvalError}
    (h : WellMarked Takes e) : WellMarked Takes (e.within step) := by
  refine ⟨fun outer houter => ?_, ?_⟩
  · have hmem : outer ∈ (step :: e.trail).dropLast := houter
    cases htrail : e.trail with
    | nil =>
        rw [htrail] at hmem
        cases hmem
    | cons inner rest =>
        rw [htrail, List.dropLast_cons_cons, ← htrail] at hmem
        rcases List.mem_cons.1 hmem with rfl | hmem
        · exact hstep
        · exact h.1 outer hmem
  · rw [operation?_within hstep]
    exact h.2

end EvalError.WellMarked

/-! ## The functions that can be called -/

/-- The functions written in the text of a value. -/
def Value.functions : Value → List FunctionSite
  | .closure params body _ => (Expr.function params body).functions
  | _ => []

/-- Do all functions written in the expression have a number of parameters of this kind? -/
def Expr.TakesOnly (Takes : Nat → Prop) (e : Expr) : Prop :=
  ∀ site ∈ e.functions, Takes site.params.length

def Value.TakesOnly (Takes : Nat → Prop) (v : Value) : Prop :=
  ∀ site ∈ v.functions, Takes site.params.length

/-- A closure has the parameters of its function, and so has whatever its body makes. -/
theorem Value.TakesOnly.body {Takes : Nat → Prop} {params : List String} {body : Expr}
    {scope : Scope} (h : (Value.closure params body scope).TakesOnly Takes) :
    Takes params.length ∧ body.TakesOnly Takes := by
  refine ⟨h _ List.mem_cons_self, fun site hsite => ?_⟩
  exact h (site.under [params]) (List.mem_cons_of_mem _ (List.mem_map_of_mem hsite))

theorem spreads_takesOnly (Takes : Nat → Prop) :
    Spreads (Value.TakesOnly Takes) fun e _ => e.TakesOnly Takes where
  data {v} hv := by
    intro site hsite
    cases v with
    | closure params body scope => cases hv
    | _ => cases hsite
  branch h := by
    refine ⟨fun site hsite => h site ?_, fun site hsite => h site ?_, fun site hsite => h site ?_⟩
      <;> simp [Expr.functions, hsite]
  function h := h
  call h := by
    refine ⟨fun site hsite => h site ?_, fun a ha site hsite => h site ?_⟩
    · exact List.mem_append_left _ hsite
    · exact List.mem_append_right _ (mem_functionsOfAll ha hsite)
  enter h _ := h.body.2

/-! ## Evaluations -/

/-- Every step keeps errors well marked: those that it raises, and those that it passes on. -/
theorem invariant_wellMarked {σ : Type} [Console σ] (Takes : Nat → Prop) :
    Invariant σ (Value.AllHeld (Value.TakesOnly Takes)) (EvalError.WellMarked Takes)
      (fun e scope => e.TakesOnly Takes ∧ scope.AllHeld (Value.TakesOnly Takes)) :=
  have h : Invariant σ _ _ _ := (spreads_takesOnly Takes).invariant
  { data := h.data
    bound := h.bound
    branch := h.branch
    function := h.function
    call := h.call
    enter := h.enter
    unbound := fun _ _ => .fresh rfl
    within := fun hstep he => he.within (Step.operation?_eq_none hstep)
    notTruth := fun _ => .fresh rfl
    notCallable := fun _ => .fresh rfl
    wrongCount := fun {params body scope args} hclosure hcount _ => by
      have htakes := (hclosure _ (Value.mem_held_self _)).body.1
      refine .fresh ⟨?_, params.length, htakes, rfl⟩
      simpa [Arity.accepts] using hcount.symm
    primitive := fun {name args e s s'} _ _ he => by
      obtain ⟨cause, rfl, hcause⟩ := Primitive.ofOperation_of_apply_eq_error he
      exact .operation hcause }

/-- The shape of every evaluation error. A built-in operation can only be the innermost step of the
trail, and there it is the one that the cause tells of: it is the operation whose operands, divisor,
name, text, line or console the cause complains about, and no operation for names, conditions and
callees. A wrong number of arguments is not accepted by what was expected, and expected is what the
operation takes, or else the number of parameters of a function written in the program or in a
closure that the scope holds. -/
theorem eval_error_wellMarked {σ : Type} [Console σ] {depth : Nat} {e : Expr} {scope : Scope}
    {s s' : σ} {error : EvalError} (h : eval depth e scope s = some (.error error, s')) :
    (∀ step ∈ error.trail.dropLast, step.operation? = none) ∧
      error.cause.ComesOutOf
        (fun n => ∃ site, (site ∈ e.functions ∨ ∃ v ∈ scope.held, site ∈ v.functions) ∧
          site.params.length = n)
        error.operation? := by
  refine ((invariant_wellMarked _).eval ⟨fun site hsite => ?_, fun v hv site hsite => ?_⟩ h).2
    error rfl
  · exact ⟨site, Or.inl hsite, rfl⟩
  · exact ⟨site, Or.inr ⟨v, hv, hsite⟩, rfl⟩

/-- A scope in which `g` is the function `((x) => (((y z) => y) x))`. -/
def choiceScope : Scope :=
  Scope.topLevel.bind "g"
    (.closure ["x"] (.call (.function ["y", "z"] (.name "y")) [.name "x"]) .empty)

/-- The branch `(if (++ "a" (g "b")) "c" "d")`. -/
def choiceBranch : Expr :=
  .branch (.call (.name "++") [.text "a", .call (.name "g") [.text "b"]]) (.text "c") (.text "d")

/-- The branch `(if (println "a") "c" "d")`. -/
def printBranch : Expr :=
  .branch (.call (.name "println") [.text "a"]) (.text "c") (.text "d")

/-- In the first branch the function inside `g` lacks an argument. The trail tells of the condition
and of the second argument there; the call of `g` leaves no step, and the function is found in the
scope. In the second branch there is no room for the newline, and the trail ends with the operation
that prints. -/
theorem choiceBranch_printBranch_errors :
    (∃ error, eval 5 choiceBranch choiceScope (Recording.ofText "") =
        some (.error error, Recording.ofText "") ∧
      error.trail = [.condition, .argument 1] ∧
      error.cause = .wrongCount (.exactly 2) [.text "b"] ∧
      ∃ v ∈ choiceScope.held, ∃ site ∈ v.functions, site.params.length = 2) ∧
    ∃ error, eval 3 printBranch .topLevel ({ room := 1 } : Limited) =
        some (.error error, { room := 0, output := "a" }) ∧
      error.message = "error evaluating condition: error applying primitive `println`: " ++
        "i/o failure: No space left on device (os error 28)" ∧
      ∃ name ∈ ["println", "read-num", "read-str"], error.operation? = some name := by
  refine ⟨?_, ?_⟩
  · have hrun : eval 5 choiceBranch choiceScope (Recording.ofText "") =
        some (.error ⟨[.condition, .argument 1], .wrongCount (.exactly 2) [.text "b"]⟩,
          Recording.ofText "") := rfl
    obtain ⟨-, -, n, ⟨site, hsite, hlen⟩, hn⟩ := eval_error_wellMarked hrun
    obtain rfl : 2 = n := Arity.exactly.inj hn
    refine ⟨_, hrun, rfl, rfl, ?_⟩
    rcases hsite with hsite | ⟨v, hv, hsite⟩
    · cases hsite
    · exact ⟨v, hv, site, hsite, hlen⟩
  · have hrun : eval 3 printBranch .topLevel ({ room := 1 } : Limited) =
        some (.error ⟨[.condition, .primitive "println"],
          .console (.device "No space left on device (os error 28)")⟩,
          { room := 0, output := "a" }) := rfl
    exact ⟨_, hrun, rfl, (eval_error_wellMarked hrun).2⟩

end ArrowLisp
