import ArrowLisp.Proofs.HeldValues

/-!
# The chain of frames mirrors the program text

Calls extend the scope that a closure captured, never the scope of the caller. So the frames in
front of a running body are those of the functions written around it, one for each, however deeply
calls are nested at that time. The invariant places each closure at a function of the program, with
the functions around it accounting for the frames of its scope.
-/

namespace ArrowLisp

/-- A function as it stands in a program. -/
structure FunctionSite where
  /-- The parameters of the functions written around it, outermost first. -/
  outer : List (List String)
  params : List String
  body : Expr

/-- The same function seen from further out. -/
def FunctionSite.under (outer : List (List String)) (site : FunctionSite) : FunctionSite :=
  { site with outer := outer ++ site.outer }

theorem FunctionSite.under_under (outer inner : List (List String)) (site : FunctionSite) :
    (site.under inner).under outer = site.under (outer ++ inner) := by
  simp [FunctionSite.under]

mutual

/-- The functions of a program, in the order they begin. -/
def Expr.functions : Expr → List FunctionSite
  | .number _ => []
  | .text _ => []
  | .name _ => []
  | .branch c t e => c.functions ++ t.functions ++ e.functions
  | .function params body =>
    { outer := [], params, body } :: body.functions.map (FunctionSite.under [params])
  | .call callee args => callee.functions ++ functionsOfAll args

def functionsOfAll : List Expr → List FunctionSite
  | [] => []
  | e :: rest => e.functions ++ functionsOfAll rest

end

theorem mem_functionsOfAll {es : List Expr} {e : Expr} (h : e ∈ es) {site : FunctionSite}
    (hsite : site ∈ e.functions) : site ∈ functionsOfAll es := by
  induction es with
  | nil => cases h
  | cons first rest ih =>
      rw [functionsOfAll, List.mem_append]
      rcases List.mem_cons.1 h with rfl | hrest
      · exact Or.inl hsite
      · exact Or.inr (ih hrest)

/-! ## Frames over a root -/

/-- The scope is the root with one frame for each list of parameters, outermost first. Each frame
binds its parameters in their order, and nothing else. -/
inductive Scope.Chain (root : Scope) : List (List String) → Scope → Prop
  | root : Chain root [] root
  | frame {outer : List (List String)} {parent : Scope} {params : List String}
      {bindings : List (String × Value)} :
      Chain root outer parent → bindings.map (·.1) = params →
      Chain root (outer ++ [params]) (.frame none bindings parent)

theorem Scope.Chain.extend {root scope : Scope} {outer : List (List String)}
    (h : root.Chain outer scope) {params : List String} {args : List Value}
    (hcount : params.length = args.length) :
    root.Chain (outer ++ [params]) (scope.extend params args) :=
  h.frame (List.map_fst_zip (Nat.le_of_eq hcount))

theorem Scope.Chain.depth_eq {root scope : Scope} {outer : List (List String)}
    (h : root.Chain outer scope) : scope.depth = root.depth + outer.length := by
  induction h with
  | root => rfl
  | frame _ _ ih =>
      rw [Scope.depth, ih, List.length_append, List.length_singleton]
      omega

/-! ## Closures and their places -/

def Value.isClosure : Value → Bool
  | .closure .. => true
  | _ => false

/-- Does the expression stand in the program under functions that account for the frames of its
scope? -/
def StandsIn (program : Expr) (root : Scope) (e : Expr) (scope : Scope) : Prop :=
  ∃ outer, root.Chain outer scope ∧ ∀ site ∈ e.functions, site.under outer ∈ program.functions

/-- A closure of a function of the program, made in a scope that fits the place of the function. -/
def Value.MadeIn (program : Expr) (root : Scope) : Value → Prop
  | .closure params body scope => StandsIn program root (.function params body) scope
  | _ => True

theorem StandsIn.part {program e part : Expr} {root scope : Scope}
    (h : StandsIn program root e scope) (hpart : ∀ site ∈ part.functions, site ∈ e.functions) :
    StandsIn program root part scope := by
  obtain ⟨outer, hchain, hsites⟩ := h
  exact ⟨outer, hchain, fun site hsite => hsites site (hpart site hsite)⟩

/-- A call leads into the body of the function that the closure was made of. -/
theorem StandsIn.body {program body : Expr} {root scope : Scope} {params : List String}
    (h : StandsIn program root (.function params body) scope) {args : List Value}
    (hcount : params.length = args.length) :
    StandsIn program root body (scope.extend params args) := by
  obtain ⟨outer, hchain, hsites⟩ := h
  refine ⟨outer ++ [params], hchain.extend hcount, fun site hsite => ?_⟩
  rw [← FunctionSite.under_under]
  exact hsites _ (List.mem_cons_of_mem _ (List.mem_map_of_mem hsite))

theorem spreads_madeIn (program : Expr) (root : Scope) :
    Spreads (Value.MadeIn program root) (StandsIn program root) where
  data {v} hv := by
    cases v with
    | closure params body scope => cases hv
    | _ => trivial
  branch h := by
    refine ⟨h.part fun site hsite => ?_, h.part fun site hsite => ?_, h.part fun site hsite => ?_⟩
      <;> simp [Expr.functions, hsite]
  function h := h
  call h := by
    refine ⟨h.part fun site hsite => ?_, fun a ha => h.part fun site hsite => ?_⟩
    · exact List.mem_append_left _ hsite
    · exact List.mem_append_right _ (mem_functionsOfAll ha hsite)
  enter h hcount := h.body hcount

/-- The scope chain of a running program is that of its text. Started in a scope without closures,
every closure that the result holds was made of a function of the program, and its scope has one
frame over the root for each function written around that one, whatever calls made it. -/
theorem closures_stand_in_program {σ : Type} [Console σ] {program : Expr} {root : Scope}
    (hroot : ∀ v ∈ root.held, v.isClosure = false) {depth : Nat} {s s' : σ}
    {r : Except EvalError Value} (h : eval depth program root s = some (r, s')) :
    ∀ v ∈ resultValues r, ∀ params body scope, .closure params body scope ∈ v.held →
      ∃ outer, { outer, params, body } ∈ program.functions ∧ root.Chain outer scope ∧
        scope.depth = root.depth + outer.length := by
  have hstart : StandsIn program root program root := ⟨[], .root, fun site hsite => hsite⟩
  have hheld : root.AllHeld (Value.MadeIn program root) := by
    intro v hv
    have hv' := hroot v hv
    cases v with
    | closure params body scope => cases hv'
    | _ => trivial
  intro v hv params body scope hclosure
  obtain ⟨outer, hchain, hsites⟩ :=
    (spreads_madeIn program root).eval hstart hheld h v hv _ hclosure
  have hsite := hsites { outer := [], params, body } List.mem_cons_self
  rw [FunctionSite.under, List.append_nil] at hsite
  exact ⟨outer, hsite, hchain, hchain.depth_eq⟩

/-- The program
`(((f) => (f f "")) ((self s) => (if (equal? s "aa") ((k) => s) (self self (++ s "a")))))`,
whose second function calls itself twice before it makes the closure it gives. -/
def selfCall : Expr :=
  .call (.function ["f"] (.call (.name "f") [.name "f", .text ""]))
    [.function ["self", "s"]
      (.branch (.call (.name "equal?") [.name "s", .text "aa"]) (.function ["k"] (.name "s"))
        (.call (.name "self") [.name "self", .call (.name "++") [.name "s", .text "a"]]))]

/-- The closure made in the third nested call has one frame over the top level. -/
theorem selfCall_closure :
    (∀ v ∈ Scope.topLevel.held, v.isClosure = false) ∧
      ∃ scope, eval 9 selfCall .topLevel (Recording.ofText "") =
          some (.ok (.closure ["k"] (.name "s") scope), Recording.ofText "") ∧
        scope.lookup "s" = some (.text "aa") ∧ scope.depth = 2 ∧
        ∃ outer, { outer, params := ["k"], body := .name "s" } ∈ selfCall.functions ∧
          Scope.topLevel.Chain outer scope ∧ scope.depth = Scope.topLevel.depth + outer.length := by
  have hroot : ∀ v ∈ Scope.topLevel.held, v.isClosure = false := by
    decide
  obtain ⟨scope, hrun, hlookup, hdepth⟩ : ∃ scope,
      eval 9 selfCall .topLevel (Recording.ofText "") =
        some (.ok (.closure ["k"] (.name "s") scope), Recording.ofText "") ∧
      scope.lookup "s" = some (.text "aa") ∧ scope.depth = 2 := by
    refine ⟨_, rfl, ?_, ?_⟩ <;> rfl
  refine ⟨hroot, scope, hrun, hlookup, hdepth, ?_⟩
  exact closures_stand_in_program hroot hrun _ (List.mem_singleton.2 rfl) _ _ _
    (Value.mem_held_self _)

end ArrowLisp
