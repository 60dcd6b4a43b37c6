import ArrowLisp.Proofs.NameLookup
import Mathlib.Data.List.Nodup

/-!
# Renaming parameters

Two expressions are renamed into each other if they differ only in the names of parameters. While
the two are compared, the parameters of the functions on the way are kept in pairs, the innermost
first. Names stand for each other if the first pair that has one of them has both; names that no
pair has stand for themselves alone. Putting new names in place of the parameters of a function, in
such a way that none of them is captured, renames it.
-/

namespace ArrowLisp

/-- Do two names stand for each other, given pairs of names that are bound together? -/
def Stands : List (String × String) → String → String → Prop
  | [], x, y => x = y
  | (p, q) :: pairs, x, y => (x = p ∧ y = q) ∨ (x ≠ p ∧ y ≠ q ∧ Stands pairs x y)

/-- Of names bound in pairs without repetition, those of one pair stand for each other. -/
theorem stands_of_mem {pairs : List (String × String)} {x y : String}
    (hleft : (pairs.map (·.1)).Nodup) (hright : (pairs.map (·.2)).Nodup) (h : (x, y) ∈ pairs) :
    Stands pairs x y := by
  induction pairs with
  | nil => cases h
  | cons p pairs ih =>
      rw [List.map_cons, List.nodup_cons] at hleft hright
      rcases List.mem_cons.1 h with rfl | h
      · exact Or.inl ⟨rfl, rfl⟩
      · have hx : x ≠ p.1 := fun he => hleft.1 (he ▸ List.mem_map_of_mem h)
        have hy : y ≠ p.2 := fun he => hright.1 (he ▸ List.mem_map_of_mem h)
        exact Or.inr ⟨hx, hy, ih hleft.2 hright.2 h⟩

theorem stands_of_not_mem {pairs : List (String × String)} {x : String}
    (h : ∀ p ∈ pairs, x ≠ p.1 ∧ x ≠ p.2) : Stands pairs x x := by
  induction pairs with
  | nil => rfl
  | cons p pairs ih =>
      obtain ⟨hleft, hright⟩ := h p List.mem_cons_self
      exact Or.inr ⟨hleft, hright, ih fun q hq => h q (List.mem_cons_of_mem p hq)⟩

/-- Where every pair is a name with itself, names stand for themselves alone. -/
theorem stands_iff_eq {pairs : List (String × String)} (h : ∀ p ∈ pairs, p.1 = p.2)
    {x y : String} : Stands pairs x y ↔ x = y := by
  induction pairs with
  | nil => rfl
  | cons p pairs ih =>
      obtain ⟨p, q⟩ := p
      obtain rfl : p = q := h (p, q) List.mem_cons_self
      rw [Stands, ih fun r hr => h r (List.mem_cons_of_mem _ hr)]
      by_cases hx : x = p <;> grind

namespace Expr

mutual

/-- The same expression up to the names of parameters, given pairs of names bound around it. The
later of two parameters of one function is the inner one. -/
inductive Renames : List (String × String) → Expr → Expr → Prop
  | number (pairs : List (String × String)) (x : Float) : Renames pairs (.number x) (.number x)
  | text (pairs : List (String × String)) (s : String) : Renames pairs (.text s) (.text s)
  | name {pairs : List (String × String)} {x y : String} :
      Stands pairs x y → Renames pairs (.name x) (.name y)
  | branch {pairs : List (String × String)} {c t e c' t' e' : Expr} :
      Renames pairs c c' → Renames pairs t t' → Renames pairs e e' →
      Renames pairs (.branch c t e) (.branch c' t' e')
  | function {pairs : List (String × String)} {params params' : List String} {body body' : Expr} :
      params.length = params'.length →
      Renames ((params.zip params').reverse ++ pairs) body body' →
      Renames pairs (.function params body) (.function params' body')
  | call {pairs : List (String × String)} {callee callee' : Expr} {args args' : List Expr} :
      Renames pairs callee callee' → AllRename pairs args args' →
      Renames pairs (.call callee args) (.call callee' args')

inductive AllRename : List (String × String) → List Expr → List Expr → Prop
  | nil (pairs : List (String × String)) : AllRename pairs [] []
  | cons {pairs : List (String × String)} {e e' : Expr} {es es' : List Expr} :
      Renames pairs e e' → AllRename pairs es es' → AllRename pairs (e :: es) (e' :: es')

end

/-- Do two expressions differ only in the names of parameters? -/
def Renamed (e e' : Expr) : Prop :=
  Renames [] e e'

theorem AllRename.forall₂ {pairs : List (String × String)} : ∀ {es es' : List Expr},
    AllRename pairs es es' → List.Forall₂ (Renames pairs) es es'
  | _, _, .nil _ => .nil
  | _, _, .cons he hes => .cons he hes.forall₂

theorem mem_zip_self {params : List String} {p : String × String}
    (h : p ∈ params.zip params) : p.1 = p.2 := by
  induction params with
  | nil => simp at h
  | cons x params ih =>
      rcases List.mem_cons.1 h with h | h
      · rw [h]
      · exact ih h

mutual

/-- An expression is renamed into itself. -/
theorem renames_refl (pairs : List (String × String)) (h : ∀ p ∈ pairs, p.1 = p.2) :
    ∀ e : Expr, Renames pairs e e
  | .number x => .number pairs x
  | .text s => .text pairs s
  | .name x => .name ((stands_iff_eq h).2 rfl)
  | .branch c t e =>
      .branch (renames_refl pairs h c) (renames_refl pairs h t) (renames_refl pairs h e)
  | .function params body => by
      refine .function rfl (renames_refl _ (fun p hp => ?_) body)
      rcases List.mem_append.1 hp with hp | hp
      · exact mem_zip_self (List.mem_reverse.1 hp)
      · exact h p hp
  | .call callee args => .call (renames_refl pairs h callee) (allRename_refl pairs h args)

theorem allRename_refl (pairs : List (String × String)) (h : ∀ p ∈ pairs, p.1 = p.2) :
    ∀ es : List Expr, AllRename pairs es es
  | [] => .nil pairs
  | e :: es => .cons (renames_refl pairs h e) (allRename_refl pairs h es)

end

/-! ## New names for the parameters of a function -/

/-- Leaves the given names alone. -/
def keep (params : List String) (new : String → String) (x : String) : String :=
  if x ∈ params then x else new x

mutual

/-- Puts new names in place of the free names of an expression. -/
def rename (new : String → String) : Expr → Expr
  | .number x => .number x
  | .text s => .text s
  | .name x => .name (new x)
  | .branch c t e => .branch (rename new c) (rename new t) (rename new e)
  | .function params body => .function params (rename (keep params new) body)
  | .call callee args => .call (rename new callee) (renameAll new args)

def renameAll (new : String → String) : List Expr → List Expr
  | [] => []
  | e :: rest => rename new e :: renameAll new rest

end

mutual

/-- Is no new name captured by a function it comes to stand in? -/
def CaptureFree (new : String → String) : Expr → Prop
  | .number _ => True
  | .text _ => True
  | .name _ => True
  | .branch c t e => CaptureFree new c ∧ CaptureFree new t ∧ CaptureFree new e
  | .function params body =>
    (∀ x ∈ (Expr.function params body).freeNames, new x ∉ params) ∧
      CaptureFree (keep params new) body
  | .call callee args => CaptureFree new callee ∧ AllCaptureFree new args

def AllCaptureFree (new : String → String) : List Expr → Prop
  | [] => True
  | e :: rest => CaptureFree new e ∧ AllCaptureFree new rest

end

/-- Under a function whose parameters stay, names stand as they did around it. -/
theorem stands_under {pairs : List (String × String)} {params : List String} {x y : String} :
    Stands ((params.zip params).reverse ++ pairs) x y ↔
      (x ∈ params ∧ x = y) ∨ (x ∉ params ∧ y ∉ params ∧ Stands pairs x y) := by
  induction params generalizing pairs with
  | nil => simp
  | cons p params ih =>
      rw [List.zip_cons_cons, List.reverse_cons, List.append_assoc, List.singleton_append, ih,
        Stands]
      by_cases hx : x = p <;> grind

mutual

theorem renames_rename (pairs : List (String × String)) (new : String → String) : ∀ e : Expr,
    (∀ x ∈ e.freeNames, Stands pairs x (new x)) → e.CaptureFree new →
    Renames pairs e (e.rename new)
  | .number x, _, _ => by
      rw [rename]
      exact .number pairs x
  | .text s, _, _ => by
      rw [rename]
      exact .text pairs s
  | .name x, h, _ => by
      rw [rename]
      exact .name (h x (mem_freeNames_name.2 rfl))
  | .branch c t e, h, ⟨hc, ht, he⟩ => by
      simp only [mem_freeNames_branch] at h
      rw [rename]
      refine .branch ?_ ?_ ?_
      · exact renames_rename pairs new c (fun x hx => h x (Or.inl hx)) hc
      · exact renames_rename pairs new t (fun x hx => h x (Or.inr (Or.inl hx))) ht
      · exact renames_rename pairs new e (fun x hx => h x (Or.inr (Or.inr hx))) he
  | .function params body, h, ⟨hparams, hbody⟩ => by
      rw [rename]
      refine .function rfl (renames_rename _ (keep params new) body (fun x hx => ?_) hbody)
      rw [stands_under, keep]
      by_cases hmem : x ∈ params
      · exact Or.inl ⟨hmem, by rw [if_pos hmem]⟩
      · have hfree := mem_freeNames_function.2 ⟨hx, hmem⟩
        rw [if_neg hmem]
        exact Or.inr ⟨hmem, hparams x hfree, h x hfree⟩
  | .call callee args, h, ⟨hcallee, hargs⟩ => by
      simp only [mem_freeNames_call] at h
      rw [rename]
      refine .call ?_ ?_
      · exact renames_rename pairs new callee (fun x hx => h x (Or.inl hx)) hcallee
      · refine allRename_renameAll pairs new args (fun x hx => h x (Or.inr ?_)) hargs
        exact mem_freeNamesAll.1 hx

theorem allRename_renameAll (pairs : List (String × String)) (new : String → String) :
    ∀ es : List Expr, (∀ x ∈ freeNamesAll es, Stands pairs x (new x)) → AllCaptureFree new es →
    AllRename pairs es (renameAll new es)
  | [], _, _ => by
      rw [renameAll]
      exact .nil pairs
  | e :: es, h, ⟨he, hes⟩ => by
      simp only [freeNamesAll, List.mem_append] at h
      rw [renameAll]
      refine .cons ?_ ?_
      · exact renames_rename pairs new e (fun x hx => h x (Or.inl hx)) he
      · exact allRename_renameAll pairs new es (fun x hx => h x (Or.inr hx)) hes

end

/-- The new name at the place a parameter has among the old ones; other names stay. -/
def newName (params params' : List String) (x : String) : String :=
  ((params.zip params').lookup x).getD x

/-- New names for the parameters of a function, none repeated, none free in it and none captured in
its body. -/
theorem renamed_params {params params' : List String} {body : Expr}
    (hlength : params.length = params'.length) (hnodup : params.Nodup) (hnodup' : params'.Nodup)
    (hfresh : ∀ x ∈ (Expr.function params body).freeNames, x ∉ params')
    (hfree : body.CaptureFree (newName params params')) :
    Renamed (.function params body) (.function params' (body.rename (newName params params'))) := by
  have hold : (params.zip params').map (·.1) = params := List.map_fst_zip (Nat.le_of_eq hlength)
  have hnew : (params.zip params').map (·.2) = params' :=
    List.map_snd_zip (Nat.le_of_eq hlength.symm)
  refine .function hlength (renames_rename _ _ body (fun x hx => ?_) hfree)
  rw [List.append_nil, newName]
  cases hplace : (params.zip params').lookup x with
  | some y =>
      obtain ⟨before, after, hsplit, -⟩ := List.lookup_eq_some_iff.1 hplace
      refine stands_of_mem ?_ ?_ (List.mem_reverse.2 (hsplit ▸ by simp))
      · rwa [List.map_reverse, hold, List.nodup_reverse]
      · rwa [List.map_reverse, hnew, List.nodup_reverse]
  | none =>
      have hparam : x ∉ params := by
        intro hmem
        rw [← hold] at hmem
        obtain ⟨p, hp, rfl⟩ := List.mem_map.1 hmem
        simpa using List.lookup_eq_none_iff.1 hplace p hp
      have hparam' : x ∉ params' := hfresh x (mem_freeNames_function.2 ⟨hx, hparam⟩)
      refine stands_of_not_mem fun p hp => ?_
      obtain ⟨hp1, hp2⟩ := List.of_mem_zip (List.mem_reverse.1 hp)
      exact ⟨fun he => hparam (he ▸ hp1), fun he => hparam' (he ▸ hp2)⟩

end Expr

end ArrowLisp
