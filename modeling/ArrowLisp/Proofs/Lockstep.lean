import ArrowLisp.Proofs.RelatedValues

/-!
# Evaluations in lockstep

What two evaluations do side by side, said once. Given a relation of values and one of expressions
in their scopes, it is enough to check how related expressions fall into related parts and what
entering related closures leads to; then the evaluations of related expressions agree, however deep
they go. A program on two consoles is one case. Another is a property that all values of a single
evaluation have.
-/

namespace ArrowLisp

open ArrowLisp.Action

section Lockstep

variable {σ τ : Type} [Console σ] [Console τ]

/-- How two related expressions fall into parts, each side in its scope. -/
inductive Parts (E : EvalError → EvalError → Prop) (R : Value → Value → Prop)
    (Q : Expr → Scope → Expr → Scope → Prop) : Expr → Scope → Expr → Scope → Prop
  | number (x : Float) {scope scope' : Scope} : Parts E R Q (.number x) scope (.number x) scope'
  | text (s : String) {scope scope' : Scope} : Parts E R Q (.text s) scope (.text s) scope'
  | bound {x y : String} {v w : Value} {scope scope' : Scope} :
      scope.lookup x = some v → scope'.lookup y = some w → R v w →
      Parts E R Q (.name x) scope (.name y) scope'
  | unbound {x y : String} {scope scope' : Scope} :
      scope.lookup x = none → scope'.lookup y = none →
      E { cause := .unbound x } { cause := .unbound y } →
      Parts E R Q (.name x) scope (.name y) scope'
  | branch {c t e c' t' e' : Expr} {scope scope' : Scope} :
      Q c scope c' scope' → Q t scope t' scope' → Q e scope e' scope' →
      Parts E R Q (.branch c t e) scope (.branch c' t' e') scope'
  | function {params params' : List String} {body body' : Expr} {scope scope' : Scope} :
      R (.closure params body scope) (.closure params' body' scope') →
      Parts E R Q (.function params body) scope (.function params' body') scope'
  | call {callee callee' : Expr} {args args' : List Expr} {scope scope' : Scope} :
      Q callee scope callee' scope' → List.Forall₂ (Q · scope · scope') args args' →
      Parts E R Q (.call callee args) scope (.call callee' args') scope'

/-- Relations that two evaluations keep, step by step: of states, errors, values and expressions in
their scopes. -/
structure Lockstep (S : σ → τ → Prop) (E : EvalError → EvalError → Prop)
    (R : Value → Value → Prop) (Q : Expr → Scope → Expr → Scope → Prop) : Prop where
  outward : Outward R
  parts : ∀ {e scope e' scope'}, Q e scope e' scope' → Parts E R Q e scope e' scope'
  /-- Related closures take the same number of arguments, and entered with related arguments they
  lead to related bodies. -/
  enter : ∀ {params body scope params' body' scope'},
    R (.closure params body scope) (.closure params' body' scope') →
    params.length = params'.length ∧ ∀ {args args'}, List.Forall₂ R args args' →
      params.length = args.length →
      Q body (scope.extend params args) body' (scope'.extend params' args')
  within : ∀ {step e f}, (∀ name, step ≠ .primitive name) → E e f →
    E (e.within step) (f.within step)
  notTruth : ∀ {v w}, R v w → E { cause := .notTruth v } { cause := .notTruth w }
  notCallable : ∀ {v w}, R v w → E { cause := .notCallable v } { cause := .notCallable w }
  /-- Related closures complain alike about arguments that they do not take. -/
  wrongCount : ∀ {params body scope params' body' scope' args args'},
    R (.closure params body scope) (.closure params' body' scope') →
    params.length ≠ args.length → List.Forall₂ R args args' →
    E { cause := .wrongCount (.exactly params.length) args }
      { cause := .wrongCount (.exactly params.length) args' }
  primitive : ∀ {name args args'}, R (.primitive name) (.primitive name) →
    List.Forall₂ R args args' →
    Agrees S E R ((Primitive.apply name args).within (.primitive name))
      ((Primitive.apply name args').within (.primitive name))

namespace Lockstep

variable {S : σ → τ → Prop} {E : EvalError → EvalError → Prop} {R : Value → Value → Prop}
  {Q : Expr → Scope → Expr → Scope → Prop}

/-- Where errors need only be alike, the parts of expressions and the entering of closures are all
there is to check. -/
theorem of_related (hS : Indistinct S) (hR : Outward R)
    (parts : ∀ {e scope e' scope'}, Q e scope e' scope' →
      Parts (ErrorRelated R) R Q e scope e' scope')
    (enter : ∀ {params body scope params' body' scope'},
      R (.closure params body scope) (.closure params' body' scope') →
      params.length = params'.length ∧ ∀ {args args'}, List.Forall₂ R args args' →
        params.length = args.length →
        Q body (scope.extend params args) body' (scope'.extend params' args')) :
    Lockstep S (ErrorRelated R) R Q where
  outward := hR
  parts := parts
  enter := enter
  within _ he := he.within _
  notTruth hv := ⟨rfl, .notTruth hv⟩
  notCallable hv := ⟨rfl, .notCallable hv⟩
  wrongCount _ _ hargs := ⟨rfl, .wrongCount _ hargs⟩
  primitive _ hargs := (agrees_primitive hS hR hargs _).within fun _ _ he => he.within _

variable (h : Lockstep S E R Q)
include h

theorem agrees_applyWith {f : Expr → Scope → Action σ Value} {g : Expr → Scope → Action τ Value}
    (hbody : ∀ {e scope e' scope'}, Q e scope e' scope' → Agrees S E R (f e scope) (g e' scope'))
    {callee callee' : Value} (hcallee : R callee callee') {args args' : List Value}
    (hargs : List.Forall₂ R args args') :
    Agrees S E R (applyWith f callee args) (applyWith g callee' args') := by
  cases h.outward.form hcallee with
  | number x => exact agrees_fail (h.notCallable hcallee)
  | text s => exact agrees_fail (h.notCallable hcallee)
  | truth b => exact agrees_fail (h.notCallable hcallee)
  | primitive name => exact h.primitive hcallee hargs
  | @closure params params' body body' scope scope' =>
      obtain ⟨hlen, henter⟩ := h.enter hcallee
      by_cases hcount : params.length = args.length
      · have hcount' : params'.length = args'.length := by
          rw [← hlen, hcount, hargs.length_eq]
        simp only [applyWith, if_pos hcount, if_pos hcount']
        exact hbody (henter hargs hcount)
      · have hcount' : ¬params'.length = args'.length := by
          rwa [← hlen, ← hargs.length_eq]
        simp only [applyWith, if_neg hcount, if_neg hcount']
        rw [← hlen]
        exact agrees_fail (h.wrongCount hcallee hcount hargs)

/-- The evaluations of related expressions agree. -/
theorem agrees_eval (depth : Nat) {e e' : Expr} {scope scope' : Scope}
    (hq : Q e scope e' scope') :
    Agrees S E R (eval depth e scope : Action σ Value) (eval depth e' scope' : Action τ Value) := by
  have hwithin : ∀ step : Step, (∀ name, step ≠ .primitive name) →
      ∀ e f, E e f → E (e.within step) (f.within step) := fun _ hstep _ _ => h.within hstep
  induction depth generalizing e e' scope scope' with
  | zero => exact agrees_tooDeep
  | succ depth ih =>
      cases h.parts hq with
      | number x => exact agrees_pure (h.outward.data rfl)
      | text s => exact agrees_pure (h.outward.data rfl)
      | bound hx hy hv =>
          simp only [eval, hx, hy]
          exact agrees_pure hv
      | unbound hx hy he =>
          simp only [eval, hx, hy]
          exact agrees_fail he
      | function hclosure => exact agrees_pure hclosure
      | branch hc ht he =>
          refine ((ih hc).within (hwithin _ (by simp))).bind fun v w hv => ?_
          cases h.outward.form hv with
          | truth b =>
              cases b with
              | true => exact ih ht
              | false => exact ih he
          | _ => exact agrees_fail (h.notTruth hv)
      | call hcallee hargs =>
          refine ((ih hcallee).within (hwithin _ (by simp))).bind fun f g hf => ?_
          rw [(h.outward.form hf).isCallable_eq]
          by_cases hcall : g.isCallable = true
          · rw [if_pos hcall, if_pos hcall]
            have hvalues := agrees_evalArgs (fun index => hwithin (.argument index) (by simp))
              (hargs.imp fun a a' ha => ih ha) 0
            exact hvalues.bind fun vs vs' hvs => h.agrees_applyWith ih hf hvs
          · rw [if_neg hcall, if_neg hcall]
            exact agrees_fail (h.notCallable hf)

end Lockstep

/-! ## What holds all along one evaluation -/

/-- A property of values, one of errors and one of expressions in their scopes that an evaluation
keeps, step by step. -/
structure Invariant (σ : Type) [Console σ] (P : Value → Prop) (F : EvalError → Prop)
    (I : Expr → Scope → Prop) : Prop where
  data : ∀ {v}, v.isCallable = false → P v
  bound : ∀ {x v scope}, I (.name x) scope → scope.lookup x = some v → P v
  unbound : ∀ {x scope}, I (.name x) scope → scope.lookup x = none → F { cause := .unbound x }
  branch : ∀ {c t e scope}, I (.branch c t e) scope → I c scope ∧ I t scope ∧ I e scope
  function : ∀ {params body scope}, I (.function params body) scope →
    P (.closure params body scope)
  call : ∀ {callee args scope}, I (.call callee args) scope →
    I callee scope ∧ ∀ a ∈ args, I a scope
  enter : ∀ {params body scope args}, P (.closure params body scope) → (∀ v ∈ args, P v) →
    params.length = args.length → I body (scope.extend params args)
  within : ∀ {step e}, (∀ name, step ≠ .primitive name) → F e → F (e.within step)
  notTruth : ∀ {v}, P v → F { cause := .notTruth v }
  notCallable : ∀ {v}, P v → F { cause := .notCallable v }
  wrongCount : ∀ {params body scope args}, P (.closure params body scope) →
    params.length ≠ args.length → (∀ v ∈ args, P v) →
    F { cause := .wrongCount (.exactly params.length) args }
  primitive : ∀ {name args e} {s s' : σ}, P (.primitive name) → (∀ v ∈ args, P v) →
    Primitive.apply name args s = some (.error e, s') → F (e.within (.primitive name))

namespace Invariant

variable {P : Value → Prop} {F : EvalError → Prop} {I : Expr → Scope → Prop}

/-- Equal values with the property. -/
def Both (P : Value → Prop) (v w : Value) : Prop :=
  P v ∧ v = w

theorem forall₂_both {args args' : List Value} :
    List.Forall₂ (Both P) args args' ↔ (∀ v ∈ args, P v) ∧ args = args' := by
  unfold Both
  rw [List.forall₂_and_left, List.forall₂_eq_eq_eq]

theorem outward_both (hdata : ∀ {v}, v.isCallable = false → P v) : Outward (Both P) where
  data hv := ⟨hdata hv, rfl⟩
  form := by
    rintro v _ ⟨-, rfl⟩
    exact .refl v

/-- An evaluation goes in lockstep with itself, also on two consoles, if the operations that it can
come to apply do. -/
theorem lockstep {S : σ → τ → Prop} (h : Invariant σ P F I)
    (hS : ∀ {name}, P (.primitive name) → ∀ args,
      Agrees S Eq Eq (Primitive.apply name args : Action σ Value)
        (Primitive.apply name args : Action τ Value)) :
    Lockstep S (fun e f => F e ∧ e = f) (Both P)
      (fun e scope e' scope' => I e scope ∧ e = e' ∧ scope = scope') where
  outward := outward_both h.data
  parts := by
    rintro e scope _ _ ⟨hi, rfl, rfl⟩
    cases e with
    | number x => exact .number x
    | text s => exact .text s
    | name x =>
        cases hx : scope.lookup x with
        | some v => exact .bound hx hx ⟨h.bound hi hx, rfl⟩
        | none => exact .unbound hx hx ⟨h.unbound hi hx, rfl⟩
    | branch c t e =>
        obtain ⟨hc, ht, he⟩ := h.branch hi
        exact .branch ⟨hc, rfl, rfl⟩ ⟨ht, rfl, rfl⟩ ⟨he, rfl, rfl⟩
    | function params body => exact .function ⟨h.function hi, rfl⟩
    | call callee args =>
        obtain ⟨hcallee, hargs⟩ := h.call hi
        exact .call ⟨hcallee, rfl, rfl⟩ (List.forall₂_same.2 fun a ha => ⟨hargs a ha, rfl, rfl⟩)
  enter := by
    rintro params body scope params' body' scope' ⟨hclosure, heq⟩
    obtain ⟨rfl, rfl, rfl⟩ := Value.closure.inj heq
    refine ⟨rfl, fun hargs hcount => ?_⟩
    obtain ⟨hall, rfl⟩ := forall₂_both.1 hargs
    exact ⟨h.enter hclosure hall hcount, rfl, rfl⟩
  within := by
    rintro step e _ hstep ⟨he, rfl⟩
    exact ⟨h.within hstep he, rfl⟩
  notTruth := by
    rintro v _ ⟨hv, rfl⟩
    exact ⟨h.notTruth hv, rfl⟩
  notCallable := by
    rintro v _ ⟨hv, rfl⟩
    exact ⟨h.notCallable hv, rfl⟩
  wrongCount := by
    intro params body scope params' body' scope' args args' hclosure hcount hargs
    obtain ⟨hall, rfl⟩ := forall₂_both.1 hargs
    exact ⟨h.wrongCount hclosure.1 hcount hall, rfl⟩
  primitive := by
    intro name args args' hname hargs s t hs
    have hown := agrees_primitive indistinct_eq (outward_both h.data) hargs name s s rfl
    obtain ⟨hall, rfl⟩ := forall₂_both.1 hargs
    have hpair := hS hname.1 args s t hs
    unfold Action.within
    generalize hx : Primitive.apply name args s = x, Primitive.apply name args t = y at hown hpair ⊢
    cases hpair with
    | tooDeep => exact .tooDeep
    | value heq hs' =>
        cases hown with
        | value hv _ => exact .value ⟨hv.1, heq⟩ hs'
    | error heq hs' => exact .error ⟨h.primitive hname.1 hall hx, congrArg _ heq⟩ hs'

omit [Console τ] in
/-- The values and the errors of an evaluation have their properties. -/
theorem eval {depth : Nat} {e : Expr} {scope : Scope} {s s' : σ} {r : Except EvalError Value}
    (h : Invariant σ P F I) (hi : I e scope) (heval : eval depth e scope s = some (r, s')) :
    (∀ v, r = .ok v → P v) ∧ ∀ error, r = .error error → F error := by
  have hrun := (h.lockstep fun _ => agrees_primitive_self indistinct_eq _).agrees_eval depth
    ⟨hi, rfl, rfl⟩ s s rfl
  rw [heval] at hrun
  cases hrun with
  | value hv _ => exact ⟨by rintro _ ⟨⟩; exact hv.1, by rintro _ ⟨⟩⟩
  | error he _ => exact ⟨by rintro _ ⟨⟩, by rintro _ ⟨⟩; exact he.1⟩

omit [Console τ] in
theorem trivial : Invariant σ (fun _ => True) (fun _ => True) (fun _ _ => True) := by
  constructor <;> simp

end Invariant

/-- Evaluation gives the same on consoles that cannot be told apart. -/
theorem agrees_eval {S : σ → τ → Prop} (hS : Indistinct S) (depth : Nat) (e : Expr)
    (scope : Scope) :
    Agrees S Eq Eq (eval depth e scope : Action σ Value) (eval depth e scope : Action τ Value) :=
  ((Invariant.trivial.lockstep fun _ => agrees_primitive_self hS _).agrees_eval depth
    ⟨True.intro, rfl, rfl⟩).mono (fun _ _ he => he.2) fun _ _ hv => hv.2

theorem eval_indistinct {S : σ → τ → Prop} (hS : Indistinct S) (depth : Nat) (e : Expr)
    (scope : Scope) {s : σ} {t : τ} (hs : S s t) :
    Option.Rel (fun p q => p.1 = q.1 ∧ S p.2 q.2) (eval depth e scope s) (eval depth e scope t) :=
  (agrees_eval hS depth e scope s t hs).same_result

end Lockstep

end ArrowLisp
