import ArrowLisp.Proofs.NameLookup
import ArrowLisp.Proofs.Substitution

/-!
# Captured scopes as substitutions

A scope stands for the assignment of its visible values, and a closure for the function whose body
has had that assignment put in, its own parameters apart. Entering a closure in an extended scope
is then the same as putting the arguments into that body.
-/

namespace ArrowLisp

open Substitution

mutual

/-- The value of the substitution semantics that a value stands for. -/
def Value.reflect : Value → Val
  | .number x => .number x
  | .text s => .text s
  | .truth b => .truth b
  | .closure params body scope =>
    .lambda params ((Term.ofExpr body).subst (scope.captured.hide params))
  | .primitive name => .primitive name

/-- The visible values of a scope, by name. -/
def Scope.captured : Scope → Assignment
  | .empty => fun _ => none
  | .frame _ bindings parent => (frameAssignment bindings).orElse parent.captured

/-- The visible values of one frame: the later of two bindings of a name counts. -/
def frameAssignment : List (String × Value) → Assignment
  | [] => fun _ => none
  | (y, v) :: rest => (frameAssignment rest).orElse fun x => if x = y then some v.reflect else none

end

/-- Equal data and operations match. A closure matches a function with the same parameters whose
body is that of the closure with the captured scope put in. -/
def Value.Matches : Value → Val → Prop
  | .number x, .number y => x = y
  | .text s, .text t => s = t
  | .truth a, .truth b => a = b
  | .closure params body scope, .lambda params' body' =>
    params' = params ∧ body' = (Term.ofExpr body).subst (scope.captured.hide params)
  | .primitive a, .primitive b => a = b
  | _, _ => False

theorem Value.matches_iff {v : Value} {w : Val} : v.Matches w ↔ v.reflect = w := by
  cases v <;> cases w <;> simp [Value.Matches, Value.reflect, eq_comm]

theorem Value.matches_reflect (v : Value) : v.Matches v.reflect :=
  Value.matches_iff.2 rfl

/-! ## Scopes -/

theorem frameAssignment_eq (bindings : List (String × Value)) (x : String) :
    frameAssignment bindings x = (lastBinding x bindings).map Value.reflect := by
  induction bindings with
  | nil => rfl
  | cons binding rest ih =>
      obtain ⟨y, v⟩ := binding
      rw [lastBinding_cons, frameAssignment, Assignment.orElse, ih]
      cases lastBinding x rest with
      | some w => rfl
      | none => by_cases hx : x = y <;> simp [hx]

/-- What a scope captures is what lookup finds. -/
theorem captured_eq_lookup : ∀ (scope : Scope) (x : String),
    scope.captured x = (scope.lookup x).map Value.reflect
  | .empty, _ => rfl
  | .frame _ bindings parent, x => by
      rw [Scope.captured, Assignment.orElse, frameAssignment_eq, captured_eq_lookup parent x,
        Scope.lookup]
      cases lastBinding x bindings <;> rfl

theorem frameAssignment_zip (params : List String) (args : List Value) :
    frameAssignment (params.zip args) =
      Assignment.ofArguments params (args.map Value.reflect) := by
  induction params generalizing args with
  | nil => rfl
  | cons p params ih =>
      cases args with
      | nil => rfl
      | cons v args =>
          simp only [List.zip_cons_cons, List.map_cons, frameAssignment, Assignment.ofArguments,
            ih args]

theorem captured_extend (scope : Scope) (params : List String) (args : List Value) :
    (scope.extend params args).captured =
      (Assignment.ofArguments params (args.map Value.reflect)).orElse scope.captured := by
  rw [Scope.extend, Scope.captured, frameAssignment_zip]

theorem frameAssignment_append (bindings more : List (String × Value)) :
    frameAssignment (bindings ++ more) =
      (frameAssignment more).orElse (frameAssignment bindings) := by
  induction bindings with
  | nil =>
      funext x
      simp [frameAssignment, Assignment.orElse]
  | cons binding rest ih =>
      obtain ⟨y, v⟩ := binding
      simp only [List.cons_append, frameAssignment, ih, Assignment.orElse_assoc]

theorem frameAssignment_primitives (names : List String) (x : String) :
    frameAssignment (names.map fun name => (name, Value.primitive name)) x =
      if x ∈ names then some (.primitive x) else none := by
  induction names with
  | nil => rfl
  | cons name names ih =>
      rw [List.map_cons, frameAssignment, Assignment.orElse, ih]
      by_cases hmem : x ∈ names
      · simp [hmem]
      · by_cases hx : x = name
        · subst hx
          simp [hmem, Value.reflect]
        · simp [hmem, hx]

theorem captured_topLevel : Scope.topLevel.captured = Assignment.topLevel := by
  funext x
  rw [Scope.topLevel, Scope.captured, frameAssignment_append]
  simp only [Assignment.orElse, frameAssignment_primitives, frameAssignment, Scope.captured,
    Value.reflect, Assignment.topLevel, Option.or_none, Option.none_or]
  by_cases ht : x = "true"
  · subst ht
    rfl
  · by_cases hf : x = "false"
    · subst hf
      rfl
    · simp [ht, hf]

/-- Entering a closure puts the arguments into its body. -/
theorem subst_captured_extend {params : List String} {args : List Value}
    (hcount : params.length = args.length) (body : Expr) (scope : Scope) :
    (Term.ofExpr body).subst (scope.extend params args).captured =
      ((Term.ofExpr body).subst (scope.captured.hide params)).subst
        (Assignment.ofArguments params (args.map Value.reflect)) := by
  rw [Term.subst_subst, captured_extend, Assignment.hide_orElse_ofArguments]
  rw [hcount, List.length_map]

end ArrowLisp
