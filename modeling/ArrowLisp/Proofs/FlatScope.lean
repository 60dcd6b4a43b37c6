import ArrowLisp.Eval
import ArrowLisp.Proofs.NameLookup
import Mathlib.Data.List.Basic
import Mathlib.Data.List.Induction

/-!
# Scopes as flat lists of pairs

A chain of frames stands for one list of pairs, the oldest first. Extending the scope puts pairs at
the end of the list, and a name means the value of the last pair that has it. Two loops look at the
frames: lookup stops at the first pair of the name that it meets, and the listing of names keeps the
first one of each name. Both go from the end of the flat list to its start.
-/

namespace ArrowLisp

/-- How a scope was made. Each parameter has its argument. -/
inductive ScopeHistory where
  | new
  | topLevel
  | bind (before : ScopeHistory) (name : String) (value : Value)
  | extend (before : ScopeHistory) (params : List String) (args : List Value)
      (count : params.length = args.length)

namespace ScopeHistory

/-- The scope that was made. -/
def scope : ScopeHistory → Scope
  | new => .empty
  | topLevel => .topLevel
  | bind before name value => before.scope.bind name value
  | extend before params args _ => before.scope.extend params args

/-- The pairs that were put in, the oldest first. -/
def pairs : ScopeHistory → List (String × Value)
  | new => []
  | topLevel =>
    ["+", "-", "*", "/", "<=", "error", "equal?", "println", "read-num", "read-str", "++",
      "seq"].map (fun name => (name, .primitive name)) ++
      [("true", .truth true), ("false", .truth false)]
  | bind before name value => before.pairs ++ [(name, value)]
  | extend before params args _ => before.pairs ++ params.zip args

/-- The number of steps that made a frame. -/
def steps : ScopeHistory → Nat
  | new => 0
  | topLevel => 1
  | bind before _ _ => before.steps + 1
  | extend before _ _ _ => before.steps + 1

theorem depth_scope (history : ScopeHistory) : history.scope.depth = history.steps := by
  induction history with
  | new => rfl
  | topLevel => rfl
  | bind before name value ih => exact congrArg (· + 1) ih
  | extend before params args count ih => exact congrArg (· + 1) ih

end ScopeHistory

/-- All pairs of a scope: those of the parent, and then those of the frame. -/
def Scope.flat : Scope → List (String × Value)
  | .empty => []
  | .frame _ bindings parent => parent.flat ++ bindings

theorem ScopeHistory.flat_scope (history : ScopeHistory) :
    history.scope.flat = history.pairs := by
  induction history with
  | new => rfl
  | topLevel => rfl
  | bind before name value ih => exact congrArg (· ++ [(name, value)]) ih
  | extend before params args count ih => exact congrArg (· ++ params.zip args) ih

theorem Scope.flat_extend (scope : Scope) (params : List String) (args : List Value) :
    (scope.extend params args).flat = scope.flat ++ params.zip args :=
  rfl

/-- The last pair of the name has this value, and so many pairs stand before it. -/
def LastPair (pairs : List (String × Value)) (x : String) (v : Value) (place : Nat) : Prop :=
  ∃ before after, pairs = before ++ (x, v) :: after ∧ before.length = place ∧
    ∀ p ∈ after, p.1 ≠ x

/-! ## Lookup -/

theorem lastBinding_append (x : String) (pairs more : List (String × Value)) :
    lastBinding x (pairs ++ more) = (lastBinding x more).or (lastBinding x pairs) := by
  unfold lastBinding
  rw [List.reverse_append, List.find?_append]
  cases more.reverse.find? (·.1 == x) <;> rfl

theorem lastBinding_eq_some_iff {x : String} {v : Value} {pairs : List (String × Value)} :
    lastBinding x pairs = some v ↔ ∃ place, LastPair pairs x v place := by
  constructor
  · intro h
    obtain ⟨⟨y, w⟩, hfind, rfl⟩ := Option.map_eq_some_iff.1 h
    obtain ⟨hy, later, earlier, hsplit, hlater⟩ := List.find?_eq_some_iff_append.1 hfind
    obtain rfl : y = x := by simpa using hy
    refine ⟨_, earlier.reverse, later.reverse, ?_, rfl, ?_⟩
    · rw [← List.reverse_reverse pairs, hsplit]
      simp
    · intro p hp
      simpa using hlater p (List.mem_reverse.1 hp)
  · intro h
    obtain ⟨place, before, after, rfl, -, hafter⟩ := h
    have hnone : lastBinding x after = none := by
      have hfind : after.reverse.find? (·.1 == x) = none :=
        List.find?_eq_none.2 fun p hp => by simpa using hafter p (List.mem_reverse.1 hp)
      unfold lastBinding
      rw [hfind]
      rfl
    rw [lastBinding_append, lastBinding_cons, hnone]
    simp

theorem lastBinding_eq_none_iff {x : String} {pairs : List (String × Value)} :
    lastBinding x pairs = none ↔ ∀ p ∈ pairs, p.1 ≠ x := by
  rw [← Option.not_isSome_iff_eq_none, isSome_lastBinding, List.mem_map]
  exact ⟨fun h p hp hx => h ⟨p, hp, hx⟩, fun h ⟨p, hp, hx⟩ => h p hp hx⟩

namespace Scope

/-- The scan of the frames is one scan of the flat list, from its end. -/
theorem lookup_eq_lastBinding : ∀ (scope : Scope) (x : String),
    scope.lookup x = lastBinding x scope.flat
  | .empty, _ => rfl
  | .frame _ bindings parent, x => by
      rw [lookup_frame, flat, lastBinding_append, lookup_eq_lastBinding parent x]

/-! ## Names -/

theorem addNames_append (seen names more : List String) :
    addNames seen (names ++ more) = addNames (addNames seen names) more :=
  List.foldl_append

theorem namesAfter_eq_addNames : ∀ (seen : List String) (scope : Scope),
    scope.namesAfter seen = addNames seen (scope.flat.reverse.map (·.1))
  | _, .empty => rfl
  | seen, .frame _ bindings parent => by
      rw [namesAfter, namesAfter_eq_addNames _ parent, flat, List.reverse_append, List.map_append,
        addNames_append]

/-- Names are kept in the order in which they first come up. -/
theorem pairwise_addNames (names : List String) :
    (addNames [] names).Pairwise fun x y => names.idxOf x < names.idxOf y := by
  induction names using List.reverseRecOn with
  | nil => exact .nil
  | append_singleton names name ih =>
      have hold : ∀ x ∈ addNames [] names, (names ++ [name]).idxOf x = names.idxOf x := by
        intro x hx
        apply List.idxOf_append_of_mem
        simpa [mem_addNames] using hx
      have hkept : (addNames [] names).Pairwise fun x y =>
          (names ++ [name]).idxOf x < (names ++ [name]).idxOf y := by
        refine ih.imp_of_mem fun hx hy h => ?_
        rw [hold _ hx, hold _ hy]
        exact h
      rw [addNames_append]
      show (if (addNames [] names).contains name then addNames [] names
        else addNames [] names ++ [name]).Pairwise _
      split_ifs with hname
      · exact hkept
      · -- A new name comes up after all that are there already.
        have hnew : name ∉ names := by
          intro hmem
          exact hname (List.contains_iff_mem.2 (mem_addNames.2 (Or.inr hmem)))
        refine List.pairwise_append.2 ⟨hkept, List.pairwise_singleton _ _, fun x hx y hy => ?_⟩
        obtain rfl : y = name := List.mem_singleton.1 hy
        have hmem : x ∈ names := by simpa [mem_addNames] using hx
        rw [hold x hx, List.idxOf_append_of_notMem hnew]
        exact Nat.lt_of_lt_of_le (List.idxOf_lt_length_of_mem hmem) (Nat.le_add_right _ _)

/-- Counted from the end of the list, the last pair of a name is the first one that comes up. -/
theorem place_lastPair {pairs : List (String × Value)} {x : String} {v : Value} {place : Nat}
    (h : LastPair pairs x v place) :
    (pairs.reverse.map (·.1)).idxOf x + place + 1 = pairs.length := by
  obtain ⟨before, after, rfl, rfl, hafter⟩ := h
  have hnot : x ∉ after.reverse.map (·.1) := by
    intro hmem
    obtain ⟨p, hp, hx⟩ := List.mem_map.1 hmem
    exact hafter p (List.mem_reverse.1 hp) hx
  have hsplit : ((before ++ (x, v) :: after).reverse.map (·.1)) =
      after.reverse.map (·.1) ++ x :: before.reverse.map (·.1) := by
    simp
  rw [hsplit, List.idxOf_append_of_notMem hnot, List.idxOf_cons_self, List.length_map,
    List.length_reverse, List.length_append, List.length_cons]
  omega

theorem pairwise_names (scope : Scope) :
    scope.names.Pairwise fun x y => ∀ v w i j,
      LastPair scope.flat x v i → LastPair scope.flat y w j → j < i := by
  rw [names, namesAfter_eq_addNames]
  refine (pairwise_addNames _).imp fun {x y} hlt v w i j hx hy => ?_
  have hi := place_lastPair hx
  have hj := place_lastPair hy
  omega

theorem nodup_names (scope : Scope) : scope.names.Nodup := by
  rw [names, namesAfter_eq_addNames]
  refine (pairwise_addNames _).imp fun {x y} hlt => ?_
  rintro rfl
  exact Nat.lt_irrefl _ hlt

end Scope

/-- A chain of frames refines the flat list of pairs, however it was made. The list has what the
steps put in, and extending the chain puts pairs at the end. A name means the value of the last pair
that has it, and a name without a pair is not bound. Each name that can be looked up is listed once,
the one with the latest last pair first, and the depth counts the steps that made a frame. -/
theorem ScopeHistory.refines_flat (history : ScopeHistory) :
    history.scope.flat = history.pairs ∧
    (∀ params args, (history.scope.extend params args).flat =
      history.scope.flat ++ params.zip args) ∧
    (∀ x v, history.scope.lookup x = some v ↔ ∃ place, LastPair history.scope.flat x v place) ∧
    (∀ x, (history.scope.lookup x = none ↔ ∀ p ∈ history.scope.flat, p.1 ≠ x) ∧
      (history.scope.lookup x = none → ∀ (σ : Type) [Console σ] (depth : Nat) (s : σ),
        eval (depth + 1) (.name x) history.scope s = some (.error { cause := .unbound x }, s))) ∧
    history.scope.names.Nodup ∧
    (∀ x, x ∈ history.scope.names ↔ ∃ v, history.scope.lookup x = some v) ∧
    (history.scope.names.Pairwise fun x y => ∀ v w i j,
      LastPair history.scope.flat x v i → LastPair history.scope.flat y w j → j < i) ∧
    history.scope.depth = history.steps := by
  refine ⟨history.flat_scope, history.scope.flat_extend, fun x v => ?_,
    fun x => ⟨?_, fun hnone σ _ depth s => ?_⟩, history.scope.nodup_names, fun x => ?_,
    history.scope.pairwise_names, history.depth_scope⟩
  · rw [Scope.lookup_eq_lastBinding, lastBinding_eq_some_iff]
  · rw [Scope.lookup_eq_lastBinding, lastBinding_eq_none_iff]
  · simp only [eval, hnone]
    rfl
  · rw [Scope.mem_names_iff, Option.isSome_iff_exists]

example :
    let called :=
      ScopeHistory.new.extend ["a", "b", "a"] [.truth true, .truth true, .truth false] rfl
    ((called.bind "c" (.truth true)).bind "b" (.truth false)).scope.names = ["b", "c", "a"] := rfl

end ArrowLisp
