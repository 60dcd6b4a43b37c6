import ArrowLisp.Proofs.CapturedScope
import ArrowLisp.Proofs.RelatedValues

/-!
# Evaluation agrees with evaluation by substitution

The simulation goes along the depth allowance, which both evaluators use up alike. Messages and
built-in operations do not look into functions, so they cannot tell a closure from the function it
stands for; all else is how scopes and substitutions correspond.
-/

namespace ArrowLisp

open Substitution

/-! ## Messages and built-in operations -/

/-- The same trail and the same message. -/
def SameError (e f : EvalError) : Prop :=
  e.trail = f.trail ∧ e.message = f.message

theorem sameError_within (step : Step) (e f : EvalError) (h : SameError e f) :
    SameError (e.within step) (f.within step) := by
  refine ⟨congrArg (step :: ·) h.1, ?_⟩
  change step.render ++ ": " ++ e.message = step.render ++ ": " ++ f.message
  rw [h.2]

theorem isCallable_outline (v : Value) : v.reflect.outline.isCallable = v.isCallable := by
  cases v <;> rfl

/-- The arguments as built-in operations see them. -/
def outlines (args : List Value) : List Value :=
  (args.map Value.reflect).map Val.outline

/-- A value and its outline differ in no more than what a function is. -/
theorem outward_outline : Outward fun v w => v.reflect.outline = w where
  data {v} hv := by
    cases v with
    | closure params body scope => cases hv
    | _ => rfl
  form := by
    rintro v _ rfl
    cases v <;> constructor

theorem forall₂_outlines (args : List Value) :
    List.Forall₂ (fun v w => v.reflect.outline = w) args (outlines args) := by
  induction args with
  | nil => exact .nil
  | cons v args ih => exact .cons rfl ih

theorem sameError_of_related {e f : EvalError}
    (h : ErrorRelated (fun v w => v.reflect.outline = w) e f) : SameError e f :=
  ⟨h.1, h.message_eq outward_outline.form⟩

section Agreement

variable {σ : Type}

open ArrowLisp.Action

/-- An operation on values and the same one on their outlines make the same. -/
abbrev SameOnOutlines (act act' : Action σ Value) : Prop :=
  Agrees Eq SameError (fun v w => v.reflect = Val.ofValue w) act act'

variable [Console σ]

/-- Built-in operations other than `seq` make the same of outlines as of the values themselves. -/
theorem primitive_outlines {name : String} (hseq : name ≠ "seq") (args : List Value) :
    SameOnOutlines (Primitive.apply name args : Action σ Value)
      (Primitive.apply name (outlines args)) := by
  refine (agrees_primitive_datum indistinct_eq outward_outline (forall₂_outlines args) hseq).mono
    (fun _ _ => sameError_of_related) ?_
  rintro v _ ⟨rfl, hdata⟩
  cases v with
  | closure params body scope => cases hdata
  | _ => rfl

/-! ## Evaluation -/

/-- An evaluation in scopes and one by substitution: neither gives a result, or both give the same
error or matching values, and they leave the console in the same state. -/
abbrev Simulates (act : Action σ Value) (act' : Action σ Val) : Prop :=
  Agrees Eq SameError Value.Matches act act'

theorem simulates_primitive (name : String) (args : List Value) :
    Simulates (Primitive.apply name args : Action σ Value)
      (applyPrimitive name (args.map Value.reflect)) := by
  by_cases hseq : name = "seq"
  · subst hseq
    have hleft : (Primitive.apply "seq" args : Action σ Value) =
        Primitive.ofResult (Primitive.sequence args) := rfl
    rw [hleft, applyPrimitive, if_pos rfl, List.getLast?_map, Primitive.sequence]
    cases args.getLast? with
    | some v => exact agrees_pure v.matches_reflect
    | none => exact agrees_fail ⟨rfl, rfl⟩
  · rw [applyPrimitive, if_neg hseq]
    exact (primitive_outlines hseq args).map_right fun _ _ h => Value.matches_iff.2 h

section Bodies

variable {f : Expr → Scope → Action σ Value} {g : Term → Action σ Val}
  (h : ∀ e scope, Simulates (f e scope) (g ((Term.ofExpr e).subst scope.captured)))
include h

theorem simulates_applyWith (callee : Value) (args : List Value) :
    Simulates (ArrowLisp.applyWith f callee args)
      (Substitution.applyWith g callee.reflect (args.map Value.reflect)) := by
  cases callee with
  | number x => exact agrees_fail ⟨rfl, rfl⟩
  | text s => exact agrees_fail ⟨rfl, rfl⟩
  | truth b => exact agrees_fail ⟨rfl, rfl⟩
  | primitive name => exact (simulates_primitive name args).within (sameError_within _)
  | closure params body scope =>
      simp only [ArrowLisp.applyWith, Substitution.applyWith, Value.reflect, List.length_map]
      by_cases hcount : params.length = args.length
      · rw [if_pos hcount, if_pos hcount, ← subst_captured_extend hcount]
        exact h body (scope.extend params args)
      · rw [if_neg hcount, if_neg hcount]
        exact agrees_fail (sameError_of_related ⟨rfl, .wrongCount _ (forall₂_outlines args)⟩)

omit [Console σ] in
/-- The arguments of a call give matching values, after those that are done already. -/
theorem simulates_evalRow (args : List Expr) (scope : Scope) (done : List Val) :
    Agrees Eq SameError (fun vs vals => vals = done ++ vs.map Value.reflect)
      (evalArgs (fun e => f e scope) done.length args)
      (evalRow g done (Term.substAll scope.captured (Term.ofExprs args))) := by
  induction args generalizing done with
  | nil => exact agrees_pure (by simp)
  | cons e args ih =>
      refine ((h e scope).within (sameError_within _)).bind fun v w hv => ?_
      obtain rfl := Value.matches_iff.1 hv
      have hrest := ih (done ++ [v.reflect])
      rw [List.length_append, List.length_singleton] at hrest
      exact hrest.map_left fun vs vals hvals => by simp [hvals]

end Bodies

/-- A name is looked up in a scope where substitution has put its value or left it alone. -/
theorem simulates_name (depth : Nat) (x : String) (scope : Scope) :
    Simulates (ArrowLisp.eval (depth + 1) (.name x) scope : Action σ Value)
      (Substitution.eval (depth + 1) ((Term.ofExpr (.name x)).subst scope.captured)) := by
  have hx := captured_eq_lookup scope x
  cases hl : scope.lookup x with
  | some v =>
      rw [hl, Option.map_some] at hx
      simp only [ArrowLisp.eval, hl, Term.ofExpr, Term.subst, hx, Substitution.eval]
      exact agrees_pure v.matches_reflect
  | none =>
      rw [hl, Option.map_none] at hx
      simp only [ArrowLisp.eval, hl, Term.ofExpr, Term.subst, hx, Substitution.eval]
      exact agrees_fail ⟨rfl, rfl⟩

/-- Evaluation in a scope is simulated by evaluation of the expression with the scope put in. -/
theorem simulates_eval (depth : Nat) (e : Expr) (scope : Scope) :
    Simulates (ArrowLisp.eval depth e scope : Action σ Value)
      (Substitution.eval depth ((Term.ofExpr e).subst scope.captured)) := by
  induction depth generalizing e scope with
  | zero => exact agrees_tooDeep
  | succ depth ih =>
      cases e with
      | number x => exact agrees_pure rfl
      | text s => exact agrees_pure rfl
      | name x => exact simulates_name depth x scope
      | function params body => exact agrees_pure ⟨rfl, rfl⟩
      | branch c t e =>
          refine ((ih c scope).within (sameError_within _)).bind fun v w hv => ?_
          obtain rfl := Value.matches_iff.1 hv
          cases v with
          | truth b =>
              cases b with
              | true => exact ih t scope
              | false => exact ih e scope
          | _ => exact agrees_fail ⟨rfl, rfl⟩
      | call callee args =>
          refine ((ih callee scope).within (sameError_within _)).bind fun f w hf => ?_
          obtain rfl := Value.matches_iff.1 hf
          simp only [isCallable_outline]
          by_cases hcall : f.isCallable = true
          · rw [if_pos hcall, if_pos hcall]
            refine (simulates_evalRow ih args scope []).bind fun vs vals hvals => ?_
            rw [hvals, List.nil_append]
            exact simulates_applyWith ih f vs
          · rw [if_neg hcall, if_neg hcall]
            cases f <;> exact agrees_fail ⟨rfl, rfl⟩

/-- Matching values, or errors with the same trail and the same message. -/
def SameOutcome : Except EvalError Value → Except EvalError Val → Prop
  | .ok v, .ok w => v.Matches w
  | .error e, .error f => SameError e f
  | _, _ => False

/-- Evaluation in the top-level scope and evaluation by substitution give results for the same
programs and consoles. Whatever depths they were given, the results are the same and the console
is left in the same state. -/
theorem eval_topLevel_iff_run (e : Expr) (s : σ) :
    ((∃ depth, (ArrowLisp.eval depth e .topLevel s).isSome = true) ↔
      ∃ depth, (Substitution.run depth e s).isSome = true) ∧
    ∀ depth depth' r r' s₁ s₂, ArrowLisp.eval depth e .topLevel s = some (r, s₁) →
      Substitution.run depth' e s = some (r', s₂) → s₁ = s₂ ∧ SameOutcome r r' := by
  have hsim : ∀ depth, Agree Eq SameError Value.Matches (ArrowLisp.eval depth e .topLevel s)
      (Substitution.run depth e s) := by
    intro depth
    have h := simulates_eval depth e .topLevel s s rfl
    rwa [captured_topLevel] at h
  constructor
  · exact exists_congr fun depth => by rw [(hsim depth).isSome_eq]
  · intro depth depth' r r' s₁ s₂ heval hrun
    -- The evaluation is compared at the depth of the other side, where it has the same result.
    have h := hsim depth'
    rw [hrun] at h
    generalize hx : ArrowLisp.eval depth' e .topLevel s = x at h
    cases h with
    | value hv hs =>
        obtain ⟨rfl, rfl⟩ := Prod.mk.inj (eval_unique heval hx)
        exact ⟨hs, hv⟩
    | error he hs =>
        obtain ⟨rfl, rfl⟩ := Prod.mk.inj (eval_unique heval hx)
        exact ⟨hs, he⟩

end Agreement

/-- The call `(((x) => ((y) => (+ x y))) 1)`. -/
def adderCall : Expr :=
  .call (.function ["x"] (.function ["y"] (.call (.name "+") [.name "x", .name "y"]))) [.number 1]

/-- A function made inside a call finds the argument in its scope, where substitution has put it
into the body. -/
theorem eval_adderCall :
    ∃ scope, ArrowLisp.eval 3 adderCall .topLevel (Recording.ofText "") =
        some (.ok (.closure ["y"] (.call (.name "+") [.name "x", .name "y"]) scope),
          Recording.ofText "") ∧
      Substitution.run 3 adderCall (Recording.ofText "") =
        some (.ok (.lambda ["y"] (.call (.value (.primitive "+")) [.value (.number 1), .name "y"])),
          Recording.ofText "") ∧
      SameOutcome (.ok (.closure ["y"] (.call (.name "+") [.name "x", .name "y"]) scope))
        (.ok (.lambda ["y"]
          (.call (.value (.primitive "+")) [.value (.number 1), .name "y"]))) := by
  refine ⟨Scope.topLevel.extend ["x"] [.number 1], rfl, rfl, ?_⟩
  have h := (eval_topLevel_iff_run adderCall (Recording.ofText "")).2
  exact (h 3 3 _ _ (Recording.ofText "") (Recording.ofText "") rfl rfl).2

end ArrowLisp
