import ArrowLisp.Scope

/-!
# Free names and what scopes say about them

The free names of an expression are those it takes from its scope. A name is looked up in the
arguments of the innermost call first and then further out, and it is listed among the names of a
scope exactly if the lookup finds it.
-/

namespace ArrowLisp

namespace Expr

mutual

/-- The names an expression takes from its scope, in the order they stand in it. -/
def freeNames : Expr → List String
  | .number _ => []
  | .text _ => []
  | .name x => [x]
  | .branch c t e => freeNames c ++ freeNames t ++ freeNames e
  | .function params body => (freeNames body).filter (· ∉ params)
  | .call callee args => freeNames callee ++ freeNamesAll args

def freeNamesAll : List Expr → List String
  | [] => []
  | e :: rest => freeNames e ++ freeNamesAll rest

end

variable {x : String}

theorem mem_freeNames_name {y : String} : x ∈ (Expr.name y).freeNames ↔ x = y := by
  simp [freeNames]

theorem mem_freeNames_branch {c t e : Expr} :
    x ∈ (Expr.branch c t e).freeNames ↔ x ∈ c.freeNames ∨ x ∈ t.freeNames ∨ x ∈ e.freeNames := by
  simp [freeNames]

theorem mem_freeNames_function {params : List String} {body : Expr} :
    x ∈ (Expr.function params body).freeNames ↔ x ∈ body.freeNames ∧ x ∉ params := by
  simp [freeNames]

theorem mem_freeNamesAll {es : List Expr} : x ∈ freeNamesAll es ↔ ∃ e ∈ es, x ∈ e.freeNames := by
  induction es with
  | nil => simp [freeNamesAll]
  | cons e es ih => simp [freeNamesAll, ih]

theorem mem_freeNames_call {callee : Expr} {args : List Expr} :
    x ∈ (Expr.call callee args).freeNames ↔
      x ∈ callee.freeNames ∨ ∃ a ∈ args, x ∈ a.freeNames := by
  simp [freeNames, mem_freeNamesAll]

end Expr

/-! ## Bindings of one frame -/

theorem lastBinding_cons (x y : String) (v : Value) (rest : List (String × Value)) :
    lastBinding x ((y, v) :: rest) =
      (lastBinding x rest).or (if x = y then some v else none) := by
  unfold lastBinding
  rw [List.reverse_cons, List.find?_append]
  cases rest.reverse.find? (·.1 == x) with
  | some p => rfl
  | none =>
      by_cases hx : x = y
      · simp [hx]
      · simp [hx, Ne.symm hx]

theorem mem_of_lastBinding {x : String} {v : Value} {bindings : List (String × Value)}
    (h : lastBinding x bindings = some v) : (x, v) ∈ bindings := by
  obtain ⟨⟨y, w⟩, hfind, rfl⟩ := Option.map_eq_some_iff.1 h
  have hy : y = x := by simpa using List.find?_some hfind
  subst hy
  exact List.mem_reverse.1 (List.mem_of_find?_eq_some hfind)

theorem isSome_lastBinding {x : String} {bindings : List (String × Value)} :
    (lastBinding x bindings).isSome = true ↔ x ∈ bindings.map (·.1) := by
  induction bindings with
  | nil => simp [lastBinding]
  | cons binding rest ih =>
      obtain ⟨y, v⟩ := binding
      rw [lastBinding_cons, Option.isSome_or, Bool.or_eq_true, ih]
      by_cases hx : x = y <;> simp [hx]

namespace Scope

/-! ## Chains of frames -/

theorem lookup_frame (label : Option Nat) (bindings : List (String × Value)) (parent : Scope)
    (x : String) :
    (Scope.frame label bindings parent).lookup x =
      (lastBinding x bindings).or (parent.lookup x) := by
  rw [lookup]
  cases lastBinding x bindings <;> rfl

theorem lookup_extend (scope : Scope) (params : List String) (args : List Value) (x : String) :
    (scope.extend params args).lookup x =
      (lastBinding x (params.zip args)).or (scope.lookup x) :=
  lookup_frame none (params.zip args) scope x

/-- With an argument to each parameter, the parameters are bound, and other names are bound as
before. -/
theorem isSome_lookup_extend {scope : Scope} {params : List String} {args : List Value}
    (hcount : params.length = args.length) {x : String} :
    ((scope.extend params args).lookup x).isSome = true ↔
      x ∈ params ∨ (scope.lookup x).isSome = true := by
  rw [lookup_extend, Option.isSome_or, Bool.or_eq_true, isSome_lastBinding,
    List.map_fst_zip (Nat.le_of_eq hcount)]

/-- What is found in an extended scope is an argument or was found before. -/
theorem lookup_extend_cases {scope : Scope} {params : List String} {args : List Value}
    {x : String} {v : Value} (h : (scope.extend params args).lookup x = some v) :
    v ∈ args ∨ scope.lookup x = some v := by
  rw [lookup_extend, Option.or_eq_some_iff] at h
  rcases h with h | ⟨-, h⟩
  · exact Or.inl (List.of_mem_zip (mem_of_lastBinding h)).2
  · exact Or.inr h

/-- A value is smaller than the scope it is found in. -/
theorem sizeOf_lookup : ∀ {scope : Scope} {x : String} {v : Value}, scope.lookup x = some v →
    sizeOf v < sizeOf scope
  | .frame label bindings parent, x, v, h => by
      rw [lookup_frame, Option.or_eq_some_iff] at h
      rcases h with h | ⟨-, h⟩
      · have hmem := List.sizeOf_lt_of_mem (mem_of_lastBinding h)
        simp only [Prod.mk.sizeOf_spec, Scope.frame.sizeOf_spec] at hmem ⊢
        omega
      · have hparent := sizeOf_lookup h
        simp only [Scope.frame.sizeOf_spec]
        omega

theorem mem_addNames {x : String} {seen names : List String} :
    x ∈ addNames seen names ↔ x ∈ seen ∨ x ∈ names := by
  unfold addNames
  induction names generalizing seen with
  | nil => simp
  | cons name names ih =>
      rw [List.foldl_cons, ih, List.mem_cons]
      by_cases hname : name ∈ seen
      · -- A name that is there already adds nothing.
        have hx : x = name → x ∈ seen := fun hx => hx ▸ hname
        simp only [List.contains_iff_mem.2 hname, if_true]
        grind
      · simp [hname, or_assoc]

theorem mem_namesAfter {x : String} : ∀ (seen : List String) (scope : Scope),
    x ∈ scope.namesAfter seen ↔ x ∈ seen ∨ (scope.lookup x).isSome = true
  | seen, .empty => by simp [namesAfter, lookup]
  | seen, .frame label bindings parent => by
      rw [namesAfter, mem_namesAfter _ parent, mem_addNames, lookup_frame, Option.isSome_or,
        Bool.or_eq_true, isSome_lastBinding, List.map_reverse, List.mem_reverse, or_assoc]

/-- The names of a scope are those that lookup finds. -/
theorem mem_names_iff {x : String} {scope : Scope} :
    x ∈ scope.names ↔ (scope.lookup x).isSome = true := by
  simp [names, mem_namesAfter]

end Scope

end ArrowLisp
