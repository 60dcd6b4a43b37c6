import ArrowLisp.Eval
import Mathlib.Data.List.Forall2

/-!
# Runs side by side

Two ways to compare actions. One action *repeats* another if from related states it gives every
result that the other gives, except errors that are excused. With equal states and no excuse it
*extends* the other. A greater depth allowance extends an evaluation, so an evaluation has one
result at most. Two actions *agree* if from related states both give no result, or both give one and
the values or errors are related, and so are the states after them. Both comparisons go through
sequences of actions, through marks on errors and through rows of arguments.
-/

namespace ArrowLisp

namespace Action

section Repeats

variable {σ τ α β : Type}

/-- From related states, does the second action give every result that the first one gives, excused
errors apart, and come to related states again? -/
def Repeats (S : σ → τ → Prop) (Excused : EvalError → Prop) (act : Action σ α)
    (act' : Action τ α) : Prop :=
  ∀ s t, S s t → ∀ r s', act s = some (r, s') →
    (∃ e, r = .error e ∧ Excused e) ∨ ∃ t', act' t = some (r, t') ∧ S s' t'

/-- Does the second action give every result that the first one gives? -/
def Extends (act act' : Action σ α) : Prop :=
  ∀ s r, act s = some r → act' s = some r

theorem extends_iff_repeats {act act' : Action σ α} :
    act.Extends act' ↔ Repeats Eq (fun _ => False) act act' := by
  constructor
  · intro h s t hs r s' hr
    subst hs
    exact Or.inr ⟨s', h s _ hr, rfl⟩
  · intro h s p hp
    rcases h s s rfl p.1 p.2 hp with ⟨_, _, hno⟩ | ⟨t, ht, heq⟩
    · exact hno.elim
    · rw [ht, ← heq]

theorem repeats_self (act : Action σ α) : Repeats Eq (fun _ => False) act act :=
  extends_iff_repeats.1 fun _ _ h => h

/-- A sequence gives a result if both parts do, or if the first part fails. -/
theorem bind_eq_some {act : Action σ α} {next : α → Action σ β} {s : σ}
    {r : Except EvalError β × σ} :
    (act >>= next) s = some r ↔
      (∃ a s', act s = some (.ok a, s') ∧ next a s' = some r) ∨
      (∃ e s', act s = some (.error e, s') ∧ r = (.error e, s')) := by
  change Action.bind act next s = some r ↔ _
  unfold Action.bind
  cases h : act s with
  | none => simp
  | some p =>
      obtain ⟨result, s'⟩ := p
      cases result with
      | ok a => simp
      | error e => simp [eq_comm]

/-- A mark leaves values alone and is put on errors. -/
theorem within_eq_some {act : Action σ α} {step : Step} {s s' : σ} {r : Except EvalError α} :
    act.within step s = some (r, s') ↔
      (∃ a, act s = some (.ok a, s') ∧ r = .ok a) ∨
      (∃ e, act s = some (.error e, s') ∧ r = .error (e.within step)) := by
  unfold Action.within
  cases h : act s with
  | none => simp
  | some p =>
      obtain ⟨result, s₁⟩ := p
      cases result with
      | ok a => simp only [Option.some.injEq, Prod.mk.injEq]; grind
      | error e => simp only [Option.some.injEq, Prod.mk.injEq]; grind

theorem bind_eq_ok {act : Action σ α} {next : α → Action σ β} {s s' : σ} {b : β} :
    (act >>= next) s = some (.ok b, s') ↔
      ∃ a s₁, act s = some (.ok a, s₁) ∧ next a s₁ = some (.ok b, s') := by
  simp [bind_eq_some]

theorem bind_eq_error {act : Action σ α} {next : α → Action σ β} {s s' : σ} {e : EvalError} :
    (act >>= next) s = some (.error e, s') ↔
      (∃ a s₁, act s = some (.ok a, s₁) ∧ next a s₁ = some (.error e, s')) ∨
      act s = some (.error e, s') := by
  simp [bind_eq_some]

theorem ask_eq_ok {request : σ → Except ConsoleFailure α × σ} {s s' : σ} {a : α} :
    ask request s = some (.ok a, s') ↔ request s = (.ok a, s') := by
  unfold ask
  rcases request s with ⟨failure | b, s₁⟩ <;> simp

/-- A request is an error where the console fails. -/
theorem ask_eq_error {request : σ → Except ConsoleFailure α × σ} {s s' : σ} {e : EvalError} :
    ask request s = some (.error e, s') ↔
      ∃ failure, request s = (.error failure, s') ∧ e = { cause := .console failure } := by
  unfold ask
  rcases request s with ⟨failure | b, s₁⟩
  · simp [eq_comm, and_comm]
  · simp

variable {S : σ → τ → Prop} {Excused : EvalError → Prop}

theorem repeats_tooDeep (act' : Action τ α) : Repeats S Excused (tooDeep : Action σ α) act' := by
  intro s t _ r s' hr
  cases hr

theorem repeats_pure (a : α) :
    Repeats S Excused (pure a : Action σ α) (pure a : Action τ α) := by
  intro s t hs r s' hr
  cases hr
  exact Or.inr ⟨t, rfl, hs⟩

theorem repeats_fail (cause : Cause) :
    Repeats S Excused (fail cause : Action σ α) (fail cause : Action τ α) := by
  intro s t hs r s' hr
  cases hr
  exact Or.inr ⟨t, rfl, hs⟩

/-- What one console grants, the other grants too; a failure of the first is excused. -/
theorem repeats_ask {request : σ → Except ConsoleFailure α × σ}
    {request' : τ → Except ConsoleFailure α × τ}
    (hexcused : ∀ failure, Excused { cause := .console failure })
    (h : ∀ {s t a}, S s t → (request s).1 = .ok a →
      (request' t).1 = .ok a ∧ S (request s).2 (request' t).2) :
    Repeats S Excused (ask request) (ask request') := by
  intro s t hs r s' hr
  cases r with
  | ok a =>
      have ha := ask_eq_ok.1 hr
      have hgranted := h (a := a) hs (by rw [ha])
      rw [ha] at hgranted
      exact Or.inr ⟨_, ask_eq_ok.2 (Prod.ext hgranted.1 rfl), hgranted.2⟩
  | error e =>
      obtain ⟨failure, -, rfl⟩ := ask_eq_error.1 hr
      exact Or.inl ⟨_, rfl, hexcused failure⟩

theorem Repeats.bind {act : Action σ α} {act' : Action τ α} {next : α → Action σ β}
    {next' : α → Action τ β} (h : Repeats S Excused act act')
    (hnext : ∀ a, Repeats S Excused (next a) (next' a)) :
    Repeats S Excused (act >>= next) (act' >>= next') := by
  intro s t hs r s' hr
  rcases bind_eq_some.1 hr with ⟨a, s₁, ha, hn⟩ | ⟨e, s₁, he, hr'⟩
  · rcases h s t hs _ _ ha with ⟨e, he, -⟩ | ⟨t₁, ht, hs₁⟩
    · cases he
    · rcases hnext a s₁ t₁ hs₁ r s' hn with hexcused | ⟨t', ht', hs'⟩
      · exact Or.inl hexcused
      · exact Or.inr ⟨t', bind_eq_some.2 (Or.inl ⟨a, t₁, ht, ht'⟩), hs'⟩
  · obtain ⟨rfl, rfl⟩ := Prod.mk.inj hr'
    rcases h s t hs _ _ he with ⟨f, hf, hexcused⟩ | ⟨t₁, ht, hs₁⟩
    · cases hf
      exact Or.inl ⟨e, rfl, hexcused⟩
    · exact Or.inr ⟨t₁, bind_eq_some.2 (Or.inr ⟨e, t₁, ht, rfl⟩), hs₁⟩

theorem Repeats.within {act : Action σ α} {act' : Action τ α} (h : Repeats S Excused act act')
    {step : Step} (hexcused : ∀ e, Excused e → Excused (e.within step)) :
    Repeats S Excused (act.within step) (act'.within step) := by
  intro s t hs r s' hr
  rcases within_eq_some.1 hr with ⟨a, ha, rfl⟩ | ⟨e, he, rfl⟩
  · rcases h s t hs _ _ ha with ⟨e, he, -⟩ | ⟨t', ht, hs'⟩
    · cases he
    · exact Or.inr ⟨t', within_eq_some.2 (Or.inl ⟨a, ht, rfl⟩), hs'⟩
  · rcases h s t hs _ _ he with ⟨f, hf, hf'⟩ | ⟨t', ht, hs'⟩
    · cases hf
      exact Or.inl ⟨_, rfl, hexcused e hf'⟩
    · exact Or.inr ⟨t', within_eq_some.2 (Or.inr ⟨e, ht, rfl⟩), hs'⟩

end Repeats

section Agrees

variable {σ τ α β γ δ : Type}

/-- No result on both sides, or related results in related states. -/
inductive Agree (S : σ → τ → Prop) (E : EvalError → EvalError → Prop) (V : α → β → Prop) :
    Option (Except EvalError α × σ) → Option (Except EvalError β × τ) → Prop
  | tooDeep : Agree S E V none none
  | value {a : α} {b : β} {s : σ} {t : τ} :
      V a b → S s t → Agree S E V (some (.ok a, s)) (some (.ok b, t))
  | error {e f : EvalError} {s : σ} {t : τ} :
      E e f → S s t → Agree S E V (some (.error e, s)) (some (.error f, t))

/-- Agreement of two actions from any related states. -/
def Agrees (S : σ → τ → Prop) (E : EvalError → EvalError → Prop) (V : α → β → Prop)
    (act : Action σ α) (act' : Action τ β) : Prop :=
  ∀ s t, S s t → Agree S E V (act s) (act' t)

variable {S : σ → τ → Prop} {E : EvalError → EvalError → Prop} {V : α → β → Prop}
  {W : γ → δ → Prop}

theorem Agree.isSome_eq {x : Option (Except EvalError α × σ)} {y : Option (Except EvalError β × τ)}
    (h : Agree S E V x y) : x.isSome = y.isSome := by
  cases h <;> rfl

/-- No result on both sides, or the same result. -/
theorem Agree.same_result {x : Option (Except EvalError α × σ)}
    {y : Option (Except EvalError α × τ)} (h : Agree S Eq Eq x y) :
    Option.Rel (fun p q => p.1 = q.1 ∧ S p.2 q.2) x y := by
  cases h with
  | tooDeep => exact .none
  | value hv hs => exact .some ⟨congrArg Except.ok hv, hs⟩
  | error he hs => exact .some ⟨congrArg Except.error he, hs⟩

/-- Agreement for relations that ask for less. -/
theorem Agrees.mono {E' : EvalError → EvalError → Prop} {V' : α → β → Prop} {act : Action σ α}
    {act' : Action τ β} (h : Agrees S E V act act') (hE : ∀ e f, E e f → E' e f)
    (hV : ∀ a b, V a b → V' a b) : Agrees S E' V' act act' := by
  intro s t hs
  have hrun := h s t hs
  generalize act s = x, act' t = y at hrun ⊢
  cases hrun with
  | tooDeep => exact .tooDeep
  | value hv hs' => exact .value (hV _ _ hv) hs'
  | error he hs' => exact .error (hE _ _ he) hs'

theorem agrees_tooDeep : Agrees S E V (tooDeep : Action σ α) (tooDeep : Action τ β) :=
  fun _ _ _ => .tooDeep

theorem agrees_pure {a : α} {b : β} (h : V a b) :
    Agrees S E V (pure a : Action σ α) (pure b : Action τ β) :=
  fun _ _ hs => .value h hs

theorem agrees_fail {cause cause' : Cause} (h : E { cause } { cause := cause' }) :
    Agrees S E V (fail cause : Action σ α) (fail cause' : Action τ β) :=
  fun _ _ hs => .error h hs

/-- Consoles that answer a request alike, and come to related states with it. -/
theorem agrees_ask {request : σ → Except ConsoleFailure α × σ}
    {request' : τ → Except ConsoleFailure α × τ}
    (hE : ∀ failure, E { cause := .console failure } { cause := .console failure })
    (h : ∀ {s t}, S s t → (request s).1 = (request' t).1 ∧ S (request s).2 (request' t).2) :
    Agrees S E Eq (ask request) (ask request') := by
  intro s t hs
  obtain ⟨hanswer, hrest⟩ := h hs
  unfold ask
  generalize request s = p, request' t = q at hanswer hrest ⊢
  obtain ⟨answer, s'⟩ := p
  obtain ⟨answer', t'⟩ := q
  obtain rfl : answer = answer' := hanswer
  cases answer with
  | ok a => exact .value rfl hrest
  | error failure => exact .error (hE failure) hrest

theorem Agrees.bind {act : Action σ α} {act' : Action τ β} {next : α → Action σ γ}
    {next' : β → Action τ δ} (h : Agrees S E V act act')
    (hnext : ∀ a b, V a b → Agrees S E W (next a) (next' b)) :
    Agrees S E W (act >>= next) (act' >>= next') := by
  intro s t hs
  change Agree S E W (Action.bind act next s) (Action.bind act' next' t)
  unfold Action.bind
  have hrun := h s t hs
  generalize act s = x, act' t = y at hrun ⊢
  cases hrun with
  | tooDeep => exact .tooDeep
  | value hv hs' => exact hnext _ _ hv _ _ hs'
  | error he hs' => exact .error he hs'

theorem bind_pure_self (act : Action σ α) : (act >>= pure) = act := by
  funext s
  change Action.bind act Action.pure s = act s
  unfold Action.bind
  rcases act s with _ | ⟨_ | _, _⟩ <;> rfl

/-- A last step on the left side that only changes the value. -/
theorem Agrees.map_left {act : Action σ α} {act' : Action τ β} {g : α → γ} {W : γ → β → Prop}
    (h : Agrees S E V act act') (hg : ∀ a b, V a b → W (g a) b) :
    Agrees S E W (act >>= fun a => pure (g a)) act' := by
  rw [← bind_pure_self act']
  exact h.bind fun a b hab => agrees_pure (hg a b hab)

/-- A last step on the right side that only changes the value. -/
theorem Agrees.map_right {act : Action σ α} {act' : Action τ β} {g : β → δ} {W : α → δ → Prop}
    (h : Agrees S E V act act') (hg : ∀ a b, V a b → W a (g b)) :
    Agrees S E W act (act' >>= fun b => pure (g b)) := by
  rw [← bind_pure_self act]
  exact h.bind fun a b hab => agrees_pure (hg a b hab)

theorem Agrees.within {act : Action σ α} {act' : Action τ β} (h : Agrees S E V act act')
    {step : Step} (hE : ∀ e f, E e f → E (e.within step) (f.within step)) :
    Agrees S E V (act.within step) (act'.within step) := by
  intro s t hs
  unfold Action.within
  have hrun := h s t hs
  generalize act s = x, act' t = y at hrun ⊢
  cases hrun with
  | tooDeep => exact .tooDeep
  | value hv hs' => exact .value hv hs'
  | error he hs' => exact .error (hE _ _ he) hs'

end Agrees

end Action

/-! ## Rows of arguments -/

section Arguments

variable {σ τ ε ν ε' ν' : Type}

theorem repeats_evalArgs {S : σ → τ → Prop} {Excused : EvalError → Prop}
    (hexcused : ∀ step e, Excused e → Excused (e.within step)) {f : ε → Action σ ν}
    {g : ε → Action τ ν} (h : ∀ e, Action.Repeats S Excused (f e) (g e)) (args : List ε)
    (index : Nat) :
    Action.Repeats S Excused (evalArgs f index args) (evalArgs g index args) := by
  induction args generalizing index with
  | nil => exact Action.repeats_pure []
  | cons e rest ih =>
      refine ((h e).within (hexcused _)).bind fun v => ?_
      exact (ih (index + 1)).bind fun vs => Action.repeats_pure (v :: vs)

theorem agrees_evalArgs {S : σ → τ → Prop} {E : EvalError → EvalError → Prop} {V : ν → ν' → Prop}
    (hE : ∀ index e f, E e f → E (e.within (.argument index)) (f.within (.argument index)))
    {f : ε → Action σ ν} {g : ε' → Action τ ν'} {args : List ε} {args' : List ε'}
    (h : List.Forall₂ (fun e e' => Action.Agrees S E V (f e) (g e')) args args') (index : Nat) :
    Action.Agrees S E (List.Forall₂ V) (evalArgs f index args) (evalArgs g index args') := by
  induction h generalizing index with
  | nil => exact Action.agrees_pure .nil
  | cons he _ ih =>
      refine (he.within (hE _)).bind fun v v' hv => ?_
      refine (ih (index + 1)).bind fun vs vs' hvs => ?_
      exact Action.agrees_pure (.cons hv hvs)

end Arguments

/-! ## A greater depth keeps the results -/

section Depth

variable {σ τ : Type} [Console σ] [Console τ]

section Repeats

variable {S : σ → τ → Prop} {Excused : EvalError → Prop}
  (hexcused : ∀ step e, Excused e → Excused (e.within step))
  (hprimitive : ∀ name args, Action.Repeats S Excused (Primitive.apply name args : Action σ Value)
    (Primitive.apply name args : Action τ Value))
include hexcused hprimitive

theorem repeats_applyWith {f : Expr → Scope → Action σ Value} {g : Expr → Scope → Action τ Value}
    (h : ∀ e scope, Action.Repeats S Excused (f e scope) (g e scope)) (callee : Value)
    (args : List Value) :
    Action.Repeats S Excused (applyWith f callee args) (applyWith g callee args) := by
  cases callee with
  | closure params body scope =>
      by_cases hcount : params.length = args.length
      · simpa only [applyWith, if_pos hcount] using h body (scope.extend params args)
      · simpa only [applyWith, if_neg hcount] using Action.repeats_fail _
  | primitive name => exact (hprimitive name args).within (hexcused _)
  | number x => exact Action.repeats_fail _
  | text s => exact Action.repeats_fail _
  | truth b => exact Action.repeats_fail _

/-- An evaluation is repeated on another console, and with a greater allowance, if all operations
are. -/
theorem repeats_eval {depth depth' : Nat} (hle : depth ≤ depth') (e : Expr) (scope : Scope) :
    Action.Repeats S Excused (eval depth e scope : Action σ Value)
      (eval depth' e scope : Action τ Value) := by
  induction depth generalizing depth' e scope with
  | zero => exact Action.repeats_tooDeep _
  | succ depth ih =>
      obtain ⟨depth', rfl⟩ : ∃ n, depth' = n + 1 := ⟨depth' - 1, by omega⟩
      have hdeeper : ∀ e scope, Action.Repeats S Excused (eval depth e scope : Action σ Value)
          (eval depth' e scope : Action τ Value) := ih (by omega)
      cases e with
      | number x => exact Action.repeats_pure _
      | text s => exact Action.repeats_pure _
      | name x =>
          cases hx : scope.lookup x with
          | some v => simpa only [eval, hx] using Action.repeats_pure v
          | none => simpa only [eval, hx] using Action.repeats_fail _
      | function params body => exact Action.repeats_pure _
      | branch c t e =>
          refine ((hdeeper c scope).within (hexcused _)).bind fun v => ?_
          cases v with
          | truth b =>
              cases b with
              | true => exact hdeeper t scope
              | false => exact hdeeper e scope
          | _ => exact Action.repeats_fail _
      | call callee args =>
          refine ((hdeeper callee scope).within (hexcused _)).bind fun f => ?_
          cases hcall : f.isCallable with
          | true =>
              refine (repeats_evalArgs hexcused (fun a => hdeeper a scope) args 0).bind fun vs => ?_
              exact repeats_applyWith hexcused hprimitive hdeeper f vs
          | false => exact Action.repeats_fail _

end Repeats

theorem extends_applyWith {f g : Expr → Scope → Action σ Value}
    (h : ∀ e scope, (f e scope).Extends (g e scope)) (callee : Value) (args : List Value) :
    (applyWith f callee args).Extends (applyWith g callee args) :=
  Action.extends_iff_repeats.2 <| repeats_applyWith (fun _ _ hno => hno)
    (fun _ _ => Action.repeats_self _) (fun e scope => Action.extends_iff_repeats.1 (h e scope))
    callee args

theorem eval_extends {depth depth' : Nat} (h : depth ≤ depth') (e : Expr) (scope : Scope) :
    (eval depth e scope : Action σ Value).Extends (eval depth' e scope) :=
  Action.extends_iff_repeats.2 <| repeats_eval (fun _ _ hno => hno)
    (fun _ _ => Action.repeats_self _) h e scope

/-- Whatever the allowances, an evaluation has one result at most. -/
theorem eval_unique {depth depth' : Nat} {e : Expr} {scope : Scope} {s : σ}
    {r r' : Except EvalError Value × σ} (h : eval depth e scope s = some r)
    (h' : eval depth' e scope s = some r') : r = r' := by
  have hr := eval_extends (Nat.le_max_left depth depth') e scope s r h
  have hr' := eval_extends (Nat.le_max_right depth depth') e scope s r' h'
  exact Option.some.inj (hr.symm.trans hr')

end Depth

end ArrowLisp
