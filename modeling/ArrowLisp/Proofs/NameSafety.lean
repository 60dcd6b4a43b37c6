import ArrowLisp.Proofs.Lockstep
import ArrowLisp.Proofs.NameLookup
import ArrowLisp.Proofs.OperationFailures

/-!
# Name safety

A program fails to find a name only if the name is free in the program and the top level does not
bind it. The invariant is that every closure finds the free names of its function in the scope it
captured, those apart that were missing from the start. No program meets an operation that is not
there: all operations come from the top level, and each name in its table is one that is performed.
-/

namespace ArrowLisp

/-! ## Well-scoped values -/

/-- Each of the names is found in the scope or is one of the `missing` ones. -/
def Scope.Covers (scope : Scope) (missing : String → Prop) (names : List String) : Prop :=
  ∀ x ∈ names, (scope.lookup x).isSome = true ∨ missing x

/-- All data are well-scoped, and so are the operations of the table. A closure is well-scoped if
the scope it captured covers the free names of its function and has well-scoped values only. -/
inductive Value.WellScoped (missing : String → Prop) : Value → Prop
  | data {v : Value} : v.isCallable = false → WellScoped missing v
  | primitive {name : String} : name ∈ primitiveNames → WellScoped missing (.primitive name)
  | closure {params : List String} {body : Expr} {scope : Scope} :
      scope.Covers missing (Expr.function params body).freeNames →
      (∀ x v, scope.lookup x = some v → WellScoped missing v) →
      WellScoped missing (.closure params body scope)

/-- An expression in a scope that covers its free names and has well-scoped values only. -/
def WellScopedIn (missing : String → Prop) (e : Expr) (scope : Scope) : Prop :=
  scope.Covers missing e.freeNames ∧ ∀ x v, scope.lookup x = some v → v.WellScoped missing

/-- Errors of well-scoped programs: a name that is not found is a missing one, and no operation is
unknown. -/
def NamesFound (missing : String → Prop) (e : EvalError) : Prop :=
  match e.cause with
  | .unbound x => missing x
  | .unknownOperation _ _ => False
  | _ => True

theorem WellScopedIn.of_subset {missing : String → Prop} {e e' : Expr} {scope : Scope}
    (h : WellScopedIn missing e scope) (hsub : ∀ x ∈ e'.freeNames, x ∈ e.freeNames) :
    WellScopedIn missing e' scope :=
  ⟨fun x hx => h.1 x (hsub x hx), h.2⟩

/-- The body of a well-scoped closure finds its free names among the arguments or where the closure
was made. -/
theorem wellScopedIn_body {missing : String → Prop} {params : List String} {body : Expr}
    {scope : Scope} {args : List Value}
    (h : Value.WellScoped missing (.closure params body scope))
    (hargs : ∀ v ∈ args, v.WellScoped missing) (hcount : params.length = args.length) :
    WellScopedIn missing body (scope.extend params args) := by
  cases h with
  | data h => cases h
  | closure hfree hvalues =>
      refine ⟨fun x hx => ?_, fun x v hx => ?_⟩
      · rw [Scope.isSome_lookup_extend hcount]
        by_cases hmem : x ∈ params
        · exact Or.inl (Or.inl hmem)
        · rcases hfree x (Expr.mem_freeNames_function.2 ⟨hx, hmem⟩) with hfound | hmissing
          · exact Or.inl (Or.inr hfound)
          · exact Or.inr hmissing
      · rcases Scope.lookup_extend_cases hx with hv | hv
        · exact hargs v hv
        · exact hvalues x v hv

theorem invariant_wellScoped {σ : Type} [Console σ] (missing : String → Prop) :
    Invariant σ (Value.WellScoped missing) (NamesFound missing) (WellScopedIn missing) where
  data := .data
  bound hi hx := hi.2 _ _ hx
  unbound {x scope} hi hx := by
    rcases hi.1 x (Expr.mem_freeNames_name.2 rfl) with hfound | hmissing
    · rw [hx] at hfound
      cases hfound
    · exact hmissing
  branch hi := by
    refine ⟨hi.of_subset ?_, hi.of_subset ?_, hi.of_subset ?_⟩ <;>
      intro x hx <;> simp [Expr.mem_freeNames_branch, hx]
  function hi := .closure hi.1 hi.2
  call hi := by
    refine ⟨hi.of_subset fun x hx => ?_, fun a ha => hi.of_subset fun x hx => ?_⟩
    · exact Expr.mem_freeNames_call.2 (Or.inl hx)
    · exact Expr.mem_freeNames_call.2 (Or.inr ⟨a, ha, hx⟩)
  enter := wellScopedIn_body
  within _ he := he
  notTruth _ := trivial
  notCallable _ := trivial
  wrongCount _ _ _ := trivial
  primitive {name args e s s'} hname _ he := by
    obtain ⟨cause, rfl, hcause⟩ := Primitive.ofOperation_of_apply_eq_error he
    cases cause with
    | unbound x => exact hcause.elim
    | unknownOperation name' args' =>
        cases hname with
        | data h => cases h
        | primitive hmem => exact hcause.2 hmem
    | _ => trivial

/-! ## Programs -/

theorem wellScoped_of_topLevel {missing : String → Prop} {x : String} {v : Value}
    (h : Scope.topLevel.lookup x = some v) : v.WellScoped missing := by
  rw [Scope.topLevel, Scope.lookup_frame, Scope.lookup, Option.or_none] at h
  have hmem := mem_of_lastBinding h
  simp only [List.mem_append, List.mem_map, List.mem_cons, Prod.mk.injEq, List.not_mem_nil,
    or_false] at hmem
  rcases hmem with ⟨name, hname, -, rfl⟩ | ⟨-, rfl⟩ | ⟨-, rfl⟩
  · exact .primitive hname
  · exact .data rfl
  · exact .data rfl

section Programs

variable {σ : Type} [Console σ]

/-- Of the names that a program does not find, each is free in it and unbound at the top level. -/
theorem namesFound_topLevel {depth : Nat} {e : Expr} {s s' : σ} {error : EvalError}
    (h : eval depth e .topLevel s = some (.error error, s')) :
    NamesFound (fun x => x ∈ e.freeNames ∧ x ∉ Scope.topLevel.names) error := by
  refine ((invariant_wellScoped _).eval ⟨fun x hx => ?_, fun x v => wellScoped_of_topLevel⟩ h).2
    error rfl
  by_cases hbound : x ∈ Scope.topLevel.names
  · exact Or.inl (Scope.mem_names_iff.1 hbound)
  · exact Or.inr ⟨hx, hbound⟩

/-- A program whose free names are bound at the top level finds every name it looks up, in whatever
scope it does, and no program at all meets an operation that is not there. -/
theorem eval_topLevel_finds_names (e : Expr) (s : σ) :
    ((∀ x ∈ e.freeNames, x ∈ Scope.topLevel.names) →
      ∀ depth error s', eval depth e .topLevel s = some (.error error, s') →
        ∀ x, error.cause ≠ .unbound x) ∧
    ∀ depth error s', eval depth e .topLevel s = some (.error error, s') →
      ∀ name args, error.cause ≠ .unknownOperation name args := by
  refine ⟨fun hbound depth error s' h x hx => ?_, fun depth error s' h name args hop => ?_⟩
  · have hnames := namesFound_topLevel h
    rw [NamesFound, hx] at hnames
    exact hnames.2 (hbound x hnames.1)
  · have hnames := namesFound_topLevel h
    rw [NamesFound, hop] at hnames
    exact hnames

/-- The call `(((f) => (f "one")) ((x) => (+ x 1)))`. -/
def addToText : Expr :=
  .call (.function ["f"] (.call (.name "f") [.text "one"]))
    [.function ["x"] (.call (.name "+") [.name "x", .number 1])]

/-- A program that fails, but not for want of a name. -/
theorem eval_addToText :
    (∀ x ∈ addToText.freeNames, x ∈ Scope.topLevel.names) ∧
      ∃ error, eval 4 addToText .topLevel (Recording.ofText "") =
          some (.error error, Recording.ofText "") ∧
        (∀ x, error.cause ≠ .unbound x) ∧
        ∀ name args, error.cause ≠ .unknownOperation name args := by
  have hbound : ∀ x ∈ addToText.freeNames, x ∈ Scope.topLevel.names := by
    decide
  have h := eval_topLevel_finds_names addToText (Recording.ofText "")
  exact ⟨hbound, _, rfl, h.1 hbound 4 _ _ rfl, h.2 4 _ _ rfl⟩

end Programs

end ArrowLisp
