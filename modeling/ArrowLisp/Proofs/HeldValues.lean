import ArrowLisp.Proofs.ConsoleUse
import ArrowLisp.Proofs.NameLookup

/-!
# Values held by values

A closure holds the values of the scope it captured, and what these hold in turn. Evaluation makes
data and closures, and hands on what it was given; so all that is held by its result was held by its
scope, or is a closure made on the way. Built-in operations are thus never made: a program has those
that it finds in its scope, and only through these does it reach the console.
-/

namespace ArrowLisp

open ArrowLisp.Action

mutual

/-- The values that occur in a value: itself, and those that the scope of a closure holds. -/
def Value.held : Value → List Value
  | .number x => [.number x]
  | .text s => [.text s]
  | .truth b => [.truth b]
  | .closure params body scope => .closure params body scope :: scope.held
  | .primitive name => [.primitive name]

/-- The values that occur in the bindings of a scope, be they visible or not. -/
def Scope.held : Scope → List Value
  | .empty => []
  | .frame _ bindings parent => heldInFrame bindings ++ parent.held

def heldInFrame : List (String × Value) → List Value
  | [] => []
  | (_, v) :: rest => v.held ++ heldInFrame rest

end

/-- The values that an error carries. -/
def Cause.values : Cause → List Value
  | .unbound _ => []
  | .notTruth v => [v]
  | .notCallable v => [v]
  | .wrongCount _ args => args
  | .wrongOperands _ _ args => args
  | .divisionByZero args => args
  | .notJoinable v => [v]
  | .unknownOperation _ args => args
  | .raised _ => []
  | .notNumber _ => []
  | .console _ => []

/-- The value that an evaluation gives, or the values that its error carries. -/
def resultValues : Except EvalError Value → List Value
  | .ok v => [v]
  | .error e => e.cause.values

theorem Value.mem_held_self (v : Value) : v ∈ v.held := by
  cases v <;> simp [Value.held]

theorem Value.held_of_data {v : Value} (h : v.isCallable = false) : v.held = [v] := by
  cases v with
  | closure params body scope => cases h
  | _ => rfl

theorem mem_heldInFrame {bindings : List (String × Value)} {w : Value} :
    w ∈ heldInFrame bindings ↔ ∃ binding ∈ bindings, w ∈ binding.2.held := by
  induction bindings with
  | nil => simp [heldInFrame]
  | cons binding rest ih =>
      obtain ⟨x, v⟩ := binding
      simp [heldInFrame, ih]

/-- What a visible value holds is held by the scope. -/
theorem Scope.mem_held_of_lookup : ∀ {scope : Scope} {x : String} {v w : Value},
    scope.lookup x = some v → w ∈ v.held → w ∈ scope.held
  | .frame label bindings parent, x, v, w, h, hw => by
      rw [lookup_frame, Option.or_eq_some_iff] at h
      rw [Scope.held, List.mem_append]
      rcases h with h | ⟨-, h⟩
      · exact Or.inl (mem_heldInFrame.2 ⟨_, mem_of_lastBinding h, hw⟩)
      · exact Or.inr (mem_held_of_lookup h hw)

/-- A call adds to its scope what the arguments hold. -/
theorem Scope.mem_held_extend {scope : Scope} {params : List String} {args : List Value} {w : Value}
    (h : w ∈ (scope.extend params args).held) : (∃ v ∈ args, w ∈ v.held) ∨ w ∈ scope.held := by
  rw [Scope.extend, Scope.held, List.mem_append, mem_heldInFrame] at h
  rcases h with ⟨binding, hmem, hw⟩ | hw
  · exact Or.inl ⟨binding.2, (List.of_mem_zip hmem).2, hw⟩
  · exact Or.inr hw

/-! ## What evaluation keeps -/

/-- The values in related causes are related one by one. -/
theorem Cause.Related.values {R : Value → Value → Prop} {c c' : Cause}
    (h : Cause.Related R c c') : List.Forall₂ R c.values c'.values := by
  cases h with
  | notTruth hv => exact .cons hv .nil
  | notCallable hv => exact .cons hv .nil
  | notJoinable hv => exact .cons hv .nil
  | wrongCount _ hargs => exact hargs
  | wrongOperands _ _ hargs => exact hargs
  | divisionByZero hargs => exact hargs
  | unknownOperation _ hargs => exact hargs
  | _ => exact .nil

/-- Properties that spread in the course of an evaluation, one of values and one of expressions in
their scopes. Data have the first. The second passes on to the parts of an expression, gives the
first to the closure that a function makes, and comes back in the body when such a closure is
called. -/
structure Spreads (K : Value → Prop) (J : Expr → Scope → Prop) : Prop where
  data : ∀ {v}, v.isCallable = false → K v
  branch : ∀ {c t e scope}, J (.branch c t e) scope → J c scope ∧ J t scope ∧ J e scope
  function : ∀ {params body scope}, J (.function params body) scope →
    K (.closure params body scope)
  call : ∀ {callee args scope}, J (.call callee args) scope →
    J callee scope ∧ ∀ a ∈ args, J a scope
  enter : ∀ {params body scope} {args : List Value}, K (.closure params body scope) →
    params.length = args.length → J body (scope.extend params args)

/-- Does everything that is held have the property? -/
def Value.AllHeld (K : Value → Prop) (v : Value) : Prop :=
  ∀ w ∈ v.held, K w

def Scope.AllHeld (K : Value → Prop) (scope : Scope) : Prop :=
  ∀ w ∈ scope.held, K w

namespace Spreads

variable {K : Value → Prop} {J : Expr → Scope → Prop} {σ : Type} [Console σ] (h : Spreads K J)
include h

theorem allHeld_data {v : Value} (hv : v.isCallable = false) : v.AllHeld K := by
  intro w hw
  rw [Value.held_of_data hv, List.mem_singleton] at hw
  exact h.data (hw ▸ hv)

theorem invariant : Invariant σ (Value.AllHeld K) (fun e => ∀ v ∈ e.cause.values, v.AllHeld K)
    (fun e scope => J e scope ∧ scope.AllHeld K) where
  data := h.allHeld_data
  bound hi hx := fun w hw => hi.2 w (Scope.mem_held_of_lookup hx hw)
  unbound _ _ := by
    intro v hv
    cases hv
  branch hi := by
    obtain ⟨hc, ht, he⟩ := h.branch hi.1
    exact ⟨⟨hc, hi.2⟩, ⟨ht, hi.2⟩, ⟨he, hi.2⟩⟩
  function hi := by
    intro w hw
    rcases List.mem_cons.1 hw with hw | hw
    · exact hw ▸ h.function hi.1
    · exact hi.2 w hw
  call hi := by
    obtain ⟨hcallee, hargs⟩ := h.call hi.1
    exact ⟨⟨hcallee, hi.2⟩, fun a ha => ⟨hargs a ha, hi.2⟩⟩
  enter := by
    intro params body scope args hclosure hargs hcount
    refine ⟨h.enter (hclosure _ (Value.mem_held_self _)) hcount, fun w hw => ?_⟩
    rcases Scope.mem_held_extend hw with ⟨v, hv, hw⟩ | hw
    · exact hargs v hv w hw
    · exact hclosure w (List.mem_cons_of_mem _ hw)
  within _ he := he
  notTruth hv := by
    intro w hw
    exact List.mem_singleton.1 hw ▸ hv
  notCallable hv := by
    intro w hw
    exact List.mem_singleton.1 hw ▸ hv
  wrongCount _ _ hargs := hargs
  primitive := by
    intro name args e s s' _ hargs he
    -- What an operation complains about was among its arguments.
    have hrun := agrees_primitive indistinct_eq (Invariant.outward_both h.allHeld_data)
      (Invariant.forall₂_both.2 ⟨hargs, rfl⟩) name s s rfl
    rw [he] at hrun
    cases hrun with
    | error herror _ => exact (Invariant.forall₂_both.1 herror.2.values).1

/-- All that a result holds has the property. -/
theorem eval {depth : Nat} {e : Expr} {scope : Scope} {s s' : σ} {r : Except EvalError Value}
    (hj : J e scope) (hscope : scope.AllHeld K)
    (heval : ArrowLisp.eval depth e scope s = some (r, s')) :
    ∀ v ∈ resultValues r, v.AllHeld K := by
  obtain ⟨hvalue, herror⟩ := h.invariant.eval ⟨hj, hscope⟩ heval
  cases r with
  | ok v =>
      intro w hw
      exact List.mem_singleton.1 hw ▸ hvalue v rfl
  | error e => exact herror e rfl

end Spreads

/-! ## Operations as capabilities -/

/-- The name of a built-in operation. -/
def Value.operation? : Value → Option String
  | .primitive name => some name
  | _ => none

/-- The names of the built-in operations that a value holds. -/
def Value.operations (v : Value) : List String :=
  v.held.filterMap Value.operation?

/-- The names of the built-in operations that a scope holds. -/
def Scope.operations (scope : Scope) : List String :=
  scope.held.filterMap Value.operation?

/-- If the value is a built-in operation, is it an allowed one? -/
def Value.OperatesIn (allowed : String → Prop) (v : Value) : Prop :=
  ∀ name, v.operation? = some name → allowed name

theorem forall_operation {allowed : String → Prop} {values : List Value} :
    (∀ v ∈ values, v.OperatesIn allowed) ↔
      ∀ name ∈ values.filterMap Value.operation?, allowed name := by
  simp only [Value.OperatesIn, List.mem_filterMap]
  grind

/-- No expression makes an operation. -/
theorem spreads_operatesIn (allowed : String → Prop) :
    Spreads (Value.OperatesIn allowed) fun _ _ => True where
  data {v} hv := by
    intro name hname
    cases v <;> cases hname
    cases hv
  branch _ := ⟨trivial, trivial, trivial⟩
  function _ := by
    intro name hname
    cases hname
  call _ := ⟨trivial, fun _ _ => trivial⟩
  enter _ _ := trivial

/-- Without an operation that prints or takes lines, an evaluation leaves any two consoles as they
are and does not tell them apart. -/
theorem agrees_eval_apart {σ τ : Type} [Console σ] [Console τ] {scope : Scope}
    (h : ∀ name ∈ consoleOperations, name ∉ scope.operations) (depth : Nat) (e : Expr) (s : σ)
    (t : τ) :
    Agrees (fun a b => a = s ∧ b = t) Eq Eq (eval depth e scope : Action σ Value)
      (eval depth e scope : Action τ Value) := by
  have hscope : scope.AllHeld (Value.OperatesIn (· ∉ consoleOperations)) :=
    forall_operation.2 fun name hname hconsole => h name hconsole hname
  have hapart : ∀ {name},
      (Value.primitive name).AllHeld (Value.OperatesIn (· ∉ consoleOperations)) →
      ∀ args, Agrees (fun a b => a = s ∧ b = t) Eq Eq (Primitive.apply name args : Action σ Value)
        (Primitive.apply name args : Action τ Value) := fun hname args =>
    agrees_primitive_apart _ (hname _ (Value.mem_held_self _) _ rfl) args
  have hstep := (spreads_operatesIn _).invariant.lockstep hapart
  exact (hstep.agrees_eval depth ⟨⟨trivial, hscope⟩, rfl, rfl⟩).mono (fun _ _ he => he.2)
    fun _ _ hv => hv.2

/-- Operations are capabilities. Those that the result of an evaluation holds, be it a value or the
values that an error carries, are held by the scope. And if the scope holds none that prints or
takes lines, then whatever the console is, the evaluation leaves it as it is and has the same
result. -/
theorem eval_operations_confined (e : Expr) (scope : Scope) :
    (∀ (σ : Type) [Console σ] (depth : Nat) (s s' : σ) (r : Except EvalError Value),
      eval depth e scope s = some (r, s') →
        ∀ v ∈ resultValues r, v.operations ⊆ scope.operations) ∧
    ((∀ name ∈ consoleOperations, name ∉ scope.operations) →
      ∀ depth, ∃ result : Option (Except EvalError Value),
        ∀ (σ : Type) [Console σ] (s : σ),
          eval depth e scope s = result.map fun r => (r, s)) := by
  constructor
  · intro σ _ depth s s' r heval v hv
    have hscope : scope.AllHeld (Value.OperatesIn (· ∈ scope.operations)) :=
      forall_operation.2 fun name hname => hname
    have hheld := (spreads_operatesIn _).eval trivial hscope heval v hv
    exact fun name => forall_operation.1 hheld name
  · intro h depth
    -- Any console will do to find out the result that all of them give.
    refine ⟨(eval depth e scope (Recording.ofText "")).map Prod.fst, fun σ _ s => ?_⟩
    have hrun := agrees_eval_apart h depth e (Recording.ofText "") s _ s ⟨rfl, rfl⟩
    generalize eval depth e scope (Recording.ofText "") = x, eval depth e scope s = y at hrun ⊢
    cases hrun with
    | tooDeep => rfl
    | value heq hs => rw [heq, hs.2]; rfl
    | error heq hs => rw [heq, hs.2]; rfl

/-- A scope in which `g` is the function `((x) => (join x "!"))`, made where `join` was `++`. -/
def joinerScope : Scope :=
  Scope.empty.bind "g"
    (.closure ["x"] (.call (.name "join") [.name "x", .text "!"])
      (Scope.empty.bind "join" (.primitive "++")))

/-- A call through a closure that holds no other operation than `++` goes on every console alike. -/
theorem eval_joinerScope_apart :
    joinerScope.operations = ["++"] ∧
      (∀ name ∈ consoleOperations, name ∉ joinerScope.operations) ∧
      ∀ (σ : Type) [Console σ] (s : σ),
        eval 3 (.call (.name "g") [.text "a"]) joinerScope s = some (.ok (.text "a!"), s) := by
  have hnone : ∀ name ∈ consoleOperations, name ∉ joinerScope.operations := by
    decide
  obtain ⟨result, hresult⟩ :=
    (eval_operations_confined (.call (.name "g") [.text "a"]) joinerScope).2 hnone 3
  have hone : eval 3 (.call (.name "g") [.text "a"]) joinerScope (Recording.ofText "") =
      some (.ok (.text "a!"), Recording.ofText "") := rfl
  obtain ⟨r, hr, he⟩ := Option.map_eq_some_iff.1 ((hresult Recording _).symm.trans hone)
  refine ⟨rfl, hnone, fun σ _ s => ?_⟩
  rw [hresult σ s, hr, (Prod.mk.inj he).1]
  rfl

end ArrowLisp
