import ArrowLisp.Proofs.Lockstep
import ArrowLisp.Proofs.Renaming

/-!
# Lexical scope

An expression sees of its scope no more than its free names, and what parameters are called makes
no difference. Both come from one relation: two closures are alike if their functions are renamed
into each other and names that stand for each other are found, in the two captured scopes, with
alike values. Calls keep the relation, whatever the closures are handed on to, stored in or called
from.
-/

namespace ArrowLisp

open ArrowLisp.Action

/-- Two lookups that give related values, or that find nothing under the same name. -/
inductive Found (R : Value → Value → Prop) : Option Value → Option Value → String → String → Prop
  | both {v w : Value} (x y : String) : R v w → Found R (some v) (some w) x y
  | neither (x : String) : Found R none none x x

/-- Equal data, the same operation, or two closures that differ only in the names of parameters and
in bindings they never see. -/
inductive Value.Alike : Value → Value → Prop
  | number (x : Float) : Alike (.number x) (.number x)
  | text (s : String) : Alike (.text s) (.text s)
  | truth (b : Bool) : Alike (.truth b) (.truth b)
  | primitive (name : String) : Alike (.primitive name) (.primitive name)
  | closure (pairs : List (String × String)) {params params' : List String} {body body' : Expr}
      {scope scope' : Scope} :
      Expr.Renames pairs (.function params body) (.function params' body') →
      (∀ x y, x ∈ (Expr.function params body).freeNames → Stands pairs x y →
        Found Alike (scope.lookup x) (scope'.lookup y) x y) →
      Alike (.closure params body scope) (.closure params' body' scope')

/-- Two expressions that differ only in the names of parameters, each in a scope, with alike values
for the free names. -/
def AlikeIn (e : Expr) (scope : Scope) (e' : Expr) (scope' : Scope) : Prop :=
  ∃ pairs, Expr.Renames pairs e e' ∧
    ∀ x y, x ∈ e.freeNames → Stands pairs x y →
      Found Value.Alike (scope.lookup x) (scope'.lookup y) x y

theorem outward_alike : Outward Value.Alike where
  data {v} hv := by
    cases v with
    | number x => exact .number x
    | text s => exact .text s
    | truth b => exact .truth b
    | closure params body scope => cases hv
    | primitive name => cases hv
  form h := by
    cases h <;> constructor

/-! ## Entering alike closures -/

/-- A name found among the arguments of a call, or not found there on either side. -/
theorem found_in_arguments {R : Value → Value → Prop} {pairs : List (String × String)}
    {params params' : List String} {args args' : List Value} {x y : String}
    (hcount : params.length = args.length) (hlength : params.length = params'.length)
    (hargs : List.Forall₂ R args args')
    (h : Stands ((params.zip params').reverse ++ pairs) x y) :
    (∃ v w, lastBinding x (params.zip args) = some v ∧
      lastBinding y (params'.zip args') = some w ∧ R v w) ∨
    (lastBinding x (params.zip args) = none ∧ lastBinding y (params'.zip args') = none ∧
      x ∉ params ∧ Stands pairs x y) := by
  induction hargs generalizing params params' pairs with
  | nil =>
      obtain rfl : params = [] := List.length_eq_zero_iff.1 hcount
      exact Or.inr ⟨rfl, by simp [lastBinding], by simp, h⟩
  | @cons v w args args' hv _ ih =>
      cases params with
      | nil => cases hcount
      | cons p params =>
          cases params' with
          | nil => cases hlength
          | cons q params' =>
              rw [List.zip_cons_cons, List.reverse_cons, List.append_assoc,
                List.singleton_append] at h
              simp only [List.zip_cons_cons, lastBinding_cons]
              -- The later parameters come first; the first one counts if they leave the name open.
              rcases ih (Nat.succ.inj hcount) (Nat.succ.inj hlength) h with
                ⟨v', w', hx, hy, hvw⟩ | ⟨hx, hy, hmem, hstands⟩
              · exact Or.inl ⟨v', w', by rw [hx]; rfl, by rw [hy]; rfl, hvw⟩
              · rcases hstands with ⟨rfl, rfl⟩ | ⟨hxp, hyq, hstands⟩
                · exact Or.inl ⟨v, w, by simp [hx], by simp [hy], hv⟩
                · exact Or.inr ⟨by simp [hx, hxp], by simp [hy, hyq], by simp [hxp, hmem], hstands⟩

/-- Alike closures take the same number of arguments, and with alike arguments their bodies are
alike in the extended scopes. -/
theorem alikeIn_body {params params' : List String} {body body' : Expr} {scope scope' : Scope}
    (h : Value.Alike (.closure params body scope) (.closure params' body' scope')) :
    params.length = params'.length ∧ ∀ {args args' : List Value},
      List.Forall₂ Value.Alike args args' → params.length = args.length →
      AlikeIn body (scope.extend params args) body' (scope'.extend params' args') := by
  cases h with
  | closure pairs hrenames hfound =>
      cases hrenames with
      | function hlength hbody =>
          refine ⟨hlength, fun {args args'} hargs hcount => ⟨_, hbody, fun x y hx hstands => ?_⟩⟩
          rw [Scope.lookup_extend, Scope.lookup_extend]
          rcases found_in_arguments hcount hlength hargs hstands with
            ⟨v, w, hv, hw, hvw⟩ | ⟨hv, hw, hmem, hstands⟩
          · rw [hv, hw]
            exact .both x y hvw
          · rw [hv, hw]
            exact hfound x y (Expr.mem_freeNames_function.2 ⟨hx, hmem⟩) hstands

/-! ## Alike expressions -/

theorem alikeIn_parts {e e' : Expr} {scope scope' : Scope} (h : AlikeIn e scope e' scope') :
    Parts (ErrorRelated Value.Alike) Value.Alike AlikeIn e scope e' scope' := by
  obtain ⟨pairs, hrenames, hfound⟩ := h
  cases hrenames with
  | number _ x => exact .number x
  | text _ s => exact .text s
  | @name _ x y hstands =>
      have hxy := hfound x y (Expr.mem_freeNames_name.2 rfl) hstands
      generalize hx : scope.lookup x = found, hy : scope'.lookup y = found' at hxy
      cases hxy with
      | both _ _ hv => exact .bound hx hy hv
      | neither => exact .unbound hx hy ⟨rfl, .unbound x⟩
  | branch hc ht he =>
      simp only [Expr.mem_freeNames_branch] at hfound
      refine .branch ⟨pairs, hc, fun x y hx => ?_⟩ ⟨pairs, ht, fun x y hx => ?_⟩
        ⟨pairs, he, fun x y hx => ?_⟩
      · exact hfound x y (Or.inl hx)
      · exact hfound x y (Or.inr (Or.inl hx))
      · exact hfound x y (Or.inr (Or.inr hx))
  | function hlength hbody =>
      exact .function (.closure pairs (.function hlength hbody) hfound)
  | @call _ callee callee' args args' hcallee hargs =>
      simp only [Expr.mem_freeNames_call] at hfound
      refine .call ⟨pairs, hcallee, fun x y hx => hfound x y (Or.inl hx)⟩ ?_
      have hmem : List.Forall₂ (fun a a' => a ∈ args ∧ Expr.Renames pairs a a') args args' :=
        (List.forall₂_and_left _ _).2 ⟨fun a ha => ha, hargs.forall₂⟩
      exact hmem.imp fun a a' ha =>
        ⟨pairs, ha.2, fun x y hx => hfound x y (Or.inr ⟨a, ha.1, hx⟩)⟩

theorem lockstep_alike {σ : Type} [Console σ] :
    Lockstep (Eq : σ → σ → Prop) (ErrorRelated Value.Alike) Value.Alike AlikeIn :=
  .of_related indistinct_eq outward_alike alikeIn_parts alikeIn_body

/-- Every value is alike to itself. -/
theorem alike_refl : ∀ v : Value, Value.Alike v v
  | .number x => .number x
  | .text s => .text s
  | .truth b => .truth b
  | .primitive name => .primitive name
  | .closure params body scope => by
      refine .closure [] (Expr.renames_refl [] (by simp) _) fun x y _ hxy => ?_
      obtain rfl : x = y := hxy
      cases hx : scope.lookup x with
      | some v =>
          have := Scope.sizeOf_lookup hx
          exact .both x x (alike_refl v)
      | none => exact .neither x
termination_by v => sizeOf v

/-! ## What can be seen of a run -/

/-- Values that are shown alike, and are equal unless they are closures; or errors with the same
trail, the same kind of cause and the same message. -/
def SameResult : Except EvalError Value → Except EvalError Value → Prop
  | .ok v, .ok w => v.render = w.render ∧ v.SameForm w
  | .error e, .error f =>
    e.trail = f.trail ∧ e.cause.ctorIdx = f.cause.ctorIdx ∧ e.message = f.message
  | _, _ => False

section Runs

variable {σ : Type}

/-- Two evaluations, each given by its runs under all depth allowances: one has a result if the
other has, and whatever the allowances, the results are the same and so are the states of the
console. -/
def SameRuns (run run' : Nat → Action σ Value) (s : σ) : Prop :=
  ((∃ depth, (run depth s).isSome = true) ↔ ∃ depth, (run' depth s).isSome = true) ∧
  ∀ depth depth' r r' s₁ s₂, run depth s = some (r, s₁) → run' depth' s = some (r', s₂) →
    s₁ = s₂ ∧ SameResult r r'

theorem sameResult_of_errorRelated {e f : EvalError} (h : ErrorRelated Value.Alike e f) :
    SameResult (.error e) (.error f) :=
  ⟨h.1, h.2.ctorIdx_eq, h.message_eq outward_alike.form⟩

theorem sameRuns_of_agrees {run run' : Nat → Action σ Value}
    (hrun : ∀ {depth depth'}, depth ≤ depth' → (run depth).Extends (run depth'))
    (h : ∀ depth, Agrees Eq (ErrorRelated Value.Alike) Value.Alike (run depth) (run' depth))
    (s : σ) : SameRuns run run' s := by
  constructor
  · exact exists_congr fun depth => by rw [(h depth s s rfl).isSome_eq]
  · intro depth depth' r r' s₁ s₂ hleft hright
    have hagree := h depth' s s rfl
    rw [hright] at hagree
    -- The left run is looked at under the allowance of the right one, where it has the same result.
    have hsame : ∀ q, run depth' s = some q → q = (r, s₁) := by
      intro q hq
      have hq' := hrun (Nat.le_max_right depth depth') s q hq
      have hr' := hrun (Nat.le_max_left depth depth') s (r, s₁) hleft
      exact Option.some.inj (hq'.symm.trans hr')
    generalize hx : run depth' s = x at hagree
    cases hagree with
    | value hv hs =>
        obtain ⟨rfl, rfl⟩ := Prod.mk.inj (hsame _ hx)
        exact ⟨hs, (outward_alike.form hv).render_eq, outward_alike.form hv⟩
    | error he hs =>
        obtain ⟨rfl, rfl⟩ := Prod.mk.inj (hsame _ hx)
        exact ⟨hs, sameResult_of_errorRelated he⟩

variable [Console σ]

theorem sameRuns_eval {e e' : Expr} {scope scope' : Scope} (h : AlikeIn e scope e' scope')
    (s : σ) : SameRuns (eval · e scope) (eval · e' scope') s :=
  sameRuns_of_agrees (fun hle => eval_extends hle e scope)
    (fun depth => lockstep_alike.agrees_eval depth h) s

theorem sameRuns_apply {callee callee' : Value} (h : Value.Alike callee callee')
    (args : List Value) (s : σ) : SameRuns (apply · callee args) (apply · callee' args) s := by
  refine sameRuns_of_agrees (fun hle => ?_) (fun depth => ?_) s
  · exact extends_applyWith (fun e scope => eval_extends hle e scope) callee args
  · refine lockstep_alike.agrees_applyWith (lockstep_alike.agrees_eval depth) h ?_
    exact List.forall₂_same.2 fun v _ => alike_refl v

/-- Renamed expressions are alike in scopes that say the same about the free names. -/
theorem alikeIn_of_lookup_eq {e e' : Expr} {scope scope' : Scope} (hrenamed : e.Renamed e')
    (h : ∀ x ∈ e.freeNames, scope.lookup x = scope'.lookup x) : AlikeIn e scope e' scope' := by
  refine ⟨[], hrenamed, fun x y hx hxy => ?_⟩
  obtain rfl : x = y := hxy
  rw [← h x hx]
  cases scope.lookup x with
  | some v => exact .both x x (alike_refl v)
  | none => exact .neither x

/-- Only free names matter. In two scopes that say the same about the free names of an expression,
its evaluations have the same results, and so have calls of the closures it makes there. -/
theorem eval_of_lookup_eq {e : Expr} {scope scope' : Scope}
    (h : ∀ x ∈ e.freeNames, scope.lookup x = scope'.lookup x) (s : σ) :
    SameRuns (eval · e scope) (eval · e scope') s ∧
    ∀ params body, e = .function params body → ∀ args,
      SameRuns (apply · (.closure params body scope) args)
        (apply · (.closure params body scope') args) s := by
  have halike : AlikeIn e scope e scope' :=
    alikeIn_of_lookup_eq (Expr.renames_refl [] (by simp) e) h
  refine ⟨sameRuns_eval halike s, ?_⟩
  intro params body he args
  subst he
  obtain ⟨pairs, hrenames, hfound⟩ := halike
  exact sameRuns_apply (.closure pairs hrenames hfound) args s

/-- A scope in which `g` is the function `(() => b)`, made where only `a` was bound. -/
def callerScope : Scope :=
  Scope.topLevel.bind "g" (.closure [] (.name "b") (Scope.topLevel.bind "a" (.number 1)))

/-- A binding of the caller is not seen by the function that is called. -/
theorem eval_call_without_caller :
    eval 2 (.call (.name "g") []) callerScope (Recording.ofText "") =
        some (.error { cause := .unbound "b" }, Recording.ofText "") ∧
      eval 2 (.call (.name "g") []) (callerScope.bind "b" (.number 10)) (Recording.ofText "") =
        some (.error { cause := .unbound "b" }, Recording.ofText "") ∧
      SameRuns (eval · (.call (.name "g") []) callerScope)
        (eval · (.call (.name "g") []) (callerScope.bind "b" (.number 10)))
        (Recording.ofText "") := by
  refine ⟨rfl, rfl, (eval_of_lookup_eq ?_ _).1⟩
  intro x hx
  obtain rfl : x = "g" := by simpa [Expr.freeNames, Expr.freeNamesAll] using hx
  rfl

/-- The names of parameters make no difference: expressions that differ in nothing else have the
same results in every scope. -/
theorem eval_of_renamed {e e' : Expr} (h : e.Renamed e') (scope : Scope) (s : σ) :
    SameRuns (eval · e scope) (eval · e' scope) s :=
  sameRuns_eval (alikeIn_of_lookup_eq h fun _ _ => rfl) s

/-- The call `((((p) => ((y) => (++ p y))) "a") "b")`, with a parameter `p` of any name. -/
def joinCall (p : String) : Expr :=
  .call
    (.call (.function [p] (.function ["y"] (.call (.name "++") [.name p, .name "y"]))) [.text "a"])
    [.text "b"]

/-- A parameter may be called like a top-level name. -/
theorem eval_joinCall_renamed :
    eval 4 (joinCall "x") .topLevel (Recording.ofText "") =
        some (.ok (.text "ab"), Recording.ofText "") ∧
      eval 4 (joinCall "true") .topLevel (Recording.ofText "") =
        some (.ok (.text "ab"), Recording.ofText "") ∧
      SameRuns (eval · (joinCall "x") .topLevel) (eval · (joinCall "true") .topLevel)
        (Recording.ofText "") := by
  have hfunction : Expr.Renamed
      (.function ["x"] (.function ["y"] (.call (.name "++") [.name "x", .name "y"])))
      (.function ["true"] (.function ["y"] (.call (.name "++") [.name "true", .name "y"]))) := by
    refine Expr.renamed_params rfl (by decide) (by decide) (by decide) ?_
    exact ⟨by decide, trivial, trivial, trivial, trivial⟩
  have hrenamed : (joinCall "x").Renamed (joinCall "true") :=
    .call (.call hfunction (.cons (.text [] "a") (.nil []))) (.cons (.text [] "b") (.nil []))
  exact ⟨rfl, rfl, eval_of_renamed hrenamed .topLevel _⟩

end Runs

end ArrowLisp
