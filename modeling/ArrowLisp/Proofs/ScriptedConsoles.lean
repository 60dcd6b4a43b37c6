import ArrowLisp.Proofs.Lockstep

/-!
# Two scripted consoles

A transcript keeps every print as an entry of its own, a recording keeps one text. A program cannot
tell which of them it talks to. So expressions that are evaluated one after another lead to the same
values and errors on both, take the same lines, and the entries of the transcript put together are
the output of the recording, after each of the expressions.
-/

namespace ArrowLisp

section Runs

variable {σ τ : Type} [Console σ] [Console τ]

/-- Evaluates expressions one after another, each in a scope of its own. Gives the result of each of
them with the console after it, up to the first one that goes too deep. -/
def evalEach (depth : Nat) : List (Expr × Scope) → σ → List (Except EvalError Value × σ)
  | [], _ => []
  | (e, scope) :: rest, s =>
    match eval depth e scope s with
    | none => []
    | some (result, s') => (result, s') :: evalEach depth rest s'

/-- The same results, in states that cannot be told apart. -/
theorem evalEach_indistinct {S : σ → τ → Prop} (hS : Indistinct S) (depth : Nat)
    (es : List (Expr × Scope)) {s : σ} {t : τ} (hs : S s t) :
    List.Forall₂ (fun p q => p.1 = q.1 ∧ S p.2 q.2) (evalEach depth es s)
      (evalEach depth es t) := by
  induction es generalizing s t with
  | nil => exact .nil
  | cons first es ih =>
      obtain ⟨e, scope⟩ := first
      have hrun := eval_indistinct hS depth e scope hs
      unfold evalEach
      generalize eval depth e scope s = x, eval depth e scope t = y at hrun ⊢
      cases hrun with
      | none => exact .nil
      | some hpq => exact .cons hpq (ih hpq.2)

end Runs

/-- A transcript and a recording that started with these lines, after the same number of them was
taken from both and the same texts were printed. -/
structure SameScript (lines : List String) (t : Transcript) (r : Recording) : Prop where
  inputs : ∃ taken, taken ≤ lines.length ∧ t.input = lines.drop taken ∧ r.input = lines.drop taken
  output_eq : r.output = String.join t.entries

theorem nextLine_drop (lines : List String) {taken : Nat} (h : taken ≤ lines.length) :
    ∃ taken', taken' ≤ lines.length ∧ (nextLine (lines.drop taken)).2 = lines.drop taken' := by
  cases hdrop : lines.drop taken with
  | nil => exact ⟨taken, h, hdrop.symm⟩
  | cons line rest =>
      have hlength := congrArg List.length hdrop
      rw [List.length_drop, List.length_cons] at hlength
      refine ⟨taken + 1, by omega, ?_⟩
      rw [← List.tail_drop, hdrop]
      rfl

theorem indistinct_sameScript (lines : List String) : Indistinct (SameScript lines) where
  takeLine {t r} h := by
    obtain ⟨taken, htaken, ht, hr⟩ := h.inputs
    obtain ⟨taken', htaken', hnext⟩ := nextLine_drop lines htaken
    refine ⟨?_, ⟨taken', htaken', ?_, ?_⟩, h.output_eq⟩
    · show (nextLine t.input).1 = (nextLine r.input).1
      rw [ht, hr]
    · show (nextLine t.input).2 = _
      rw [ht, hnext]
    · show (nextLine r.input).2 = _
      rw [hr, hnext]
  print {t r} text h := by
    refine ⟨rfl, h.inputs, ?_⟩
    show r.output ++ text = String.join (t.entries ++ [text])
    rw [String.join_append, h.output_eq]
    simp

/-- Expressions lead to the same results on a transcript and on a recording of the same lines. After
each of them the same lines are left, and the output of the recording is made of the entries of the
transcript. -/
theorem evalEach_transcript_recording (depth : Nat) (es : List (Expr × Scope))
    (lines : List String) :
    List.Forall₂ (fun p q => p.1 = q.1 ∧ SameScript lines p.2 q.2)
      (evalEach depth es ({ input := lines } : Transcript))
      (evalEach depth es ({ input := lines } : Recording)) := by
  refine evalEach_indistinct (indistinct_sameScript lines) depth es ⟨⟨0, ?_, rfl, rfl⟩, rfl⟩
  exact Nat.zero_le lines.length

end ArrowLisp
