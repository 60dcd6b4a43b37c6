import ArrowLisp.Proofs.ProgramRuns
import ArrowLisp.Session.World

/-!
# Data of one run do not depend on each other

All that one datum of a run can leave behind for the next is a changed input. So a datum that takes
no line can be left out: the others have the outcomes that they had, the texts that they printed
stay in order, and the same input is left. Nothing in this depends on whether the datum had a value,
failed, or was no expression at all.

The law holds for every console that keeps its input and its output apart. The two scripted consoles
do so, and so do the streams of a process.
-/

namespace ArrowLisp

/-! ## Runs that cannot be told apart -/

section Indistinct

variable {σ τ : Type} [Console σ] [Console τ] {S : σ → τ → Prop} (hS : Indistinct S) (depth : Nat)
  (scope : Scope)
include hS

theorem runDatum_indistinct (d : Datum) {s : σ} {t : τ} (hs : S s t) :
    Option.Rel (fun p q => p.1 = q.1 ∧ S p.2 q.2) (runDatum depth scope d s)
      (runDatum depth scope d t) := by
  unfold runDatum
  cases Expr.ofDatum d with
  | error e => exact .some ⟨rfl, hs⟩
  | ok e =>
      dsimp only
      have hrun := eval_indistinct hS depth e scope hs
      generalize eval depth e scope s = x, eval depth e scope t = y at hrun ⊢
      cases hrun with
      | none => exact .none
      | @some p q hpq =>
          obtain ⟨result, t'⟩ := q
          obtain ⟨rfl, hs'⟩ : p.1 = result ∧ S p.2 t' := hpq
          obtain ⟨_ | _, s'⟩ := p
          all_goals exact .some ⟨rfl, hs'⟩

theorem runData_indistinct (ds : List Datum) {s : σ} {t : τ} (hs : S s t) :
    Option.Rel (fun p q => p.1 = q.1 ∧ S p.2 q.2) (runData depth scope ds s)
      (runData depth scope ds t) := by
  induction ds generalizing s t with
  | nil => exact .some ⟨rfl, hs⟩
  | cons d ds ih =>
      rw [runData_cons, runData_cons]
      have hfirst := runDatum_indistinct hS depth scope d hs
      generalize runDatum depth scope d s = x, runDatum depth scope d t = y at hfirst ⊢
      cases hfirst with
      | none => exact .none
      | @some p q hpq =>
          have hrest := ih hpq.2
          simp only [Option.bind_some]
          generalize runData depth scope ds p.2 = x, runData depth scope ds q.2 = y at hrest ⊢
          cases hrest with
          | none => exact .none
          | some hrest => exact .some ⟨congr (congrArg List.cons hpq.1) hrest.1, hrest.2⟩

end Indistinct

/-! ## Input and output -/

/-- A console that keeps input and output apart: the input alone decides what is taken, what fails
and which input is left, and the output records the texts one by one. -/
structure Channels {σ ι ω : Type} [Console σ] (input : σ → ι) (output : σ → ω)
    (record : ω → String → ω) : Prop where
  takeLine : ∀ {s t}, input s = input t → (Console.takeLine s).1 = (Console.takeLine t).1 ∧
    input (Console.takeLine s).2 = input (Console.takeLine t).2
  output_takeLine : ∀ s, output (Console.takeLine s).2 = output s
  print : ∀ {s t} (text : String), input s = input t →
    (Console.print text s).1 = (Console.print text t).1 ∧
      input (Console.print text s).2 = input (Console.print text t).2
  output_print : ∀ text s, output (Console.print text s).2 = record (output s) text

theorem channels_transcript :
    Channels Transcript.input Transcript.entries fun entries text => entries ++ [text] where
  takeLine h := by
    show (nextLine _).1 = (nextLine _).1 ∧ (nextLine _).2 = (nextLine _).2
    rw [h]
    exact ⟨rfl, rfl⟩
  output_takeLine _ := rfl
  print _ h := ⟨rfl, h⟩
  output_print _ _ := rfl

theorem channels_recording : Channels Recording.input Recording.output (· ++ ·) where
  takeLine h := by
    show (nextLine _).1 = (nextLine _).1 ∧ (nextLine _).2 = (nextLine _).2
    rw [h]
    exact ⟨rfl, rfl⟩
  output_takeLine _ := rfl
  print _ h := ⟨rfl, h⟩
  output_print _ _ := rfl

theorem channels_world :
    Channels Session.World.stdin Session.World.stdout (· ++ ·) where
  takeLine {s t} h := by
    show (Session.World.takeLine s).1 = (Session.World.takeLine t).1 ∧
      (Session.World.takeLine s).2.stdin = (Session.World.takeLine t).2.stdin
    unfold Session.World.takeLine Session.World.readLine
    rw [h]
    rcases t.stdin.readLine with ⟨_ | _ | cs, rest⟩ <;> exact ⟨rfl, rfl⟩
  output_takeLine s := by
    show (Session.World.takeLine s).2.stdout = s.stdout
    unfold Session.World.takeLine Session.World.readLine
    rcases s.stdin.readLine with ⟨_ | _ | cs, rest⟩ <;> rfl
  print _ h := ⟨rfl, h⟩
  output_print _ _ := rfl

section Channels

variable {σ ι ω : Type} [Console σ] {input : σ → ι} {output : σ → ω} {record : ω → String → ω}

/-- States with the same input, in which the same texts were printed since two earlier ones. -/
def SameSince (input : σ → ι) (output : σ → ω) (record : ω → String → ω) (s t a b : σ) : Prop :=
  input a = input b ∧ ∃ texts : List String,
    output a = texts.foldl record (output s) ∧ output b = texts.foldl record (output t)

omit [Console σ] in
theorem sameSince_start {s t : σ} (h : input s = input t) :
    SameSince input output record s t s t :=
  ⟨h, [], rfl, rfl⟩

theorem indistinct_sameSince (hchannels : Channels input output record) (s t : σ) :
    Indistinct (SameSince input output record s t) where
  takeLine h := by
    obtain ⟨hinput, texts, ha, hb⟩ := h
    obtain ⟨hline, hrest⟩ := hchannels.takeLine hinput
    refine ⟨hline, hrest, texts, ?_, ?_⟩
    · rw [hchannels.output_takeLine, ha]
    · rw [hchannels.output_takeLine, hb]
  print text h := by
    obtain ⟨hinput, texts, ha, hb⟩ := h
    obtain ⟨hprinted, hrest⟩ := hchannels.print text hinput
    refine ⟨hprinted, hrest, texts ++ [text], ?_, ?_⟩
    · rw [hchannels.output_print, ha, List.foldl_concat]
    · rw [hchannels.output_print, hb, List.foldl_concat]

variable (hchannels : Channels input output record) {depth : Nat} {scope : Scope}
include hchannels

/-- From two states with the same input, data have the same outcomes, print the same texts and leave
the same input. -/
theorem runData_sameSince {ds : List Datum} {s t s' : σ} {outcomes : List Outcome}
    (h : runData depth scope ds s = some (outcomes, s')) (hinput : input s = input t) :
    ∃ t', runData depth scope ds t = some (outcomes, t') ∧
      SameSince input output record s t s' t' := by
  have hrun := runData_indistinct (indistinct_sameSince hchannels s t) depth scope ds
    (sameSince_start hinput)
  rw [h] at hrun
  generalize runData depth scope ds t = y at hrun ⊢
  cases hrun with
  | @some _ q hq => exact ⟨q.2, congrArg some (Prod.ext hq.1.symm rfl), hq.2⟩

theorem runDatum_prints {d : Datum} {s s' : σ} {outcome : Outcome}
    (h : runDatum depth scope d s = some (outcome, s')) :
    ∃ texts : List String, output s' = texts.foldl record (output s) := by
  have hrun := runDatum_indistinct (indistinct_sameSince hchannels s s) depth scope d
    (sameSince_start rfl)
  rw [h] at hrun
  cases hrun with
  | some hq =>
      obtain ⟨-, -, texts, hs', -⟩ := hq
      exact ⟨texts, hs'⟩

omit hchannels in
/-- A run falls into what comes before a datum, the datum itself, and what comes after it. -/
theorem runData_middle {ds ds' : List Datum} {d : Datum} {s s' : σ} {outcomes : List Outcome}
    (h : runData depth scope (ds ++ d :: ds') s = some (outcomes, s')) :
    ∃ first outcome rest s₁ s₂, runData depth scope ds s = some (first, s₁) ∧
      runDatum depth scope d s₁ = some (outcome, s₂) ∧
      runData depth scope ds' s₂ = some (rest, s') ∧ outcomes = first ++ outcome :: rest := by
  rw [runData_append] at h
  obtain ⟨⟨first, s₁⟩, hfirst, htail⟩ := Option.bind_eq_some_iff.1 h
  obtain ⟨q, hq, he⟩ := Option.map_eq_some_iff.1 htail
  rw [runData_cons] at hq
  obtain ⟨⟨outcome, s₂⟩, hown, hlast⟩ := Option.bind_eq_some_iff.1 hq
  obtain ⟨⟨rest, s₃⟩, hrest, rfl⟩ := Option.map_eq_some_iff.1 hlast
  obtain ⟨rfl, rfl⟩ := Prod.mk.inj he
  exact ⟨first, outcome, rest, s₁, s₂, hfirst, hown, hrest, rfl⟩

/-- Data are independent. A run falls into what comes before a datum, the datum itself, and what
comes after it, each with the texts that it prints. If the datum leaves the input as it is, the run
without it has the other outcomes, prints the other texts and leaves the same input. -/
theorem runData_eraseIdx {ds : List Datum} {s s' : σ} {outcomes : List Outcome}
    (h : runData depth scope ds s = some (outcomes, s')) {i : Nat} (hi : i < ds.length) :
    ∃ s₁ s₂ outcome, ∃ before own after : List String,
      runData depth scope (ds.take i) s = some (outcomes.take i, s₁) ∧
      runDatum depth scope ds[i] s₁ = some (outcome, s₂) ∧ outcomes[i]? = some outcome ∧
      output s₁ = before.foldl record (output s) ∧
      output s₂ = (before ++ own).foldl record (output s) ∧
      output s' = (before ++ own ++ after).foldl record (output s) ∧
      (input s₂ = input s₁ →
        ∃ t', runData depth scope (ds.eraseIdx i) s = some (outcomes.eraseIdx i, t') ∧
          input t' = input s' ∧ output t' = (before ++ after).foldl record (output s)) := by
  have hsplit : ds = ds.take i ++ ds[i] :: ds.drop (i + 1) := by
    rw [← List.drop_eq_getElem_cons hi, List.take_append_drop]
  rw [hsplit] at h
  obtain ⟨first, outcome, rest, s₁, s₂, hfirst, hown, hrest, rfl⟩ := runData_middle h
  have hlength : first.length = i := by
    rw [length_of_runData depth scope hfirst, List.length_take]
    omega
  obtain ⟨t₁, -, -, before, hbefore, -⟩ := runData_sameSince hchannels hfirst rfl
  obtain ⟨own, hprinted⟩ := runDatum_prints hchannels hown
  rw [hbefore, ← List.foldl_append] at hprinted
  -- The texts after the datum are found in the run without it, if there is reason to look at that.
  obtain ⟨after, hafter, hwithout⟩ : ∃ after : List String,
      output s' = after.foldl record (output s₂) ∧ (input s₂ = input s₁ →
        ∃ t', runData depth scope (ds.drop (i + 1)) s₁ = some (rest, t') ∧ input t' = input s' ∧
          output t' = after.foldl record (output s₁)) := by
    by_cases hinput : input s₂ = input s₁
    · obtain ⟨t', ht, hsame, after, hs', ht'⟩ := runData_sameSince hchannels hrest hinput
      exact ⟨after, hs', fun _ => ⟨t', ht, hsame.symm, ht'⟩⟩
    · obtain ⟨-, -, -, after, hs', -⟩ := runData_sameSince hchannels hrest rfl
      exact ⟨after, hs', fun h => absurd h hinput⟩
  rw [hprinted, ← List.foldl_append] at hafter
  refine ⟨s₁, s₂, outcome, before, own, after, ?_, hown, ?_, hbefore, hprinted, hafter, ?_⟩
  · rw [hfirst, List.take_left' hlength]
  · rw [← hlength, List.getElem?_append_right (Nat.le_refl _), Nat.sub_self]
    rfl
  · intro hinput
    obtain ⟨t', ht, hsame, ht'⟩ := hwithout hinput
    refine ⟨t', ?_, hsame, ?_⟩
    · rw [List.eraseIdx_eq_take_drop_succ, runData_append, hfirst, Option.bind_some, ht,
        Option.map_some, ← hlength, List.eraseIdx_append_of_length_le (Nat.le_refl _), Nat.sub_self,
        List.eraseIdx_cons_zero]
    · rw [ht', hbefore, ← List.foldl_append]

end Channels

/-- The data `(println "one") (seq (println "two") (missing)) (if) (println (read-str))`. -/
def mixedData : List Datum :=
  [.list [.symbol "println", .text "one"],
    .list [.symbol "seq", .list [.symbol "println", .text "two"], .list [.symbol "missing"]],
    .list [.symbol "if"],
    .list [.symbol "println", .list [.symbol "read-str"]]]

/-- The second of four data prints a line before it fails; without it, only that line is missing. -/
theorem runData_mixedData_without :
    ∃ outcomes, runData 4 .topLevel mixedData ({ input := ["x"] } : Recording) =
        some (outcomes, { input := [], output := "one\ntwo\n> x\n" }) ∧
      outcomes.map Outcome.failed = [false, true, true, false] ∧
      runData 4 .topLevel (mixedData.eraseIdx 1) ({ input := ["x"] } : Recording) =
        some (outcomes.eraseIdx 1, { input := [], output := "one\n> x\n" }) := by
  obtain ⟨outcomes, hrun, hfailed⟩ : ∃ outcomes,
      runData 4 .topLevel mixedData ({ input := ["x"] } : Recording) =
        some (outcomes, { input := [], output := "one\ntwo\n> x\n" }) ∧
      outcomes.map Outcome.failed = [false, true, true, false] := by
    refine ⟨_, rfl, ?_⟩
    rfl
  obtain ⟨s₁, s₂, outcome, before, own, after, hbefore, hown, -, -, -, -, hwithout⟩ :=
    runData_eraseIdx channels_recording hrun (show 1 < mixedData.length by decide)
  have hone : runData 4 .topLevel (mixedData.take 1) ({ input := ["x"] } : Recording) =
      some ([.ok (.truth true)], { input := ["x"], output := "one\n" }) := rfl
  obtain rfl := (Prod.mk.inj (Option.some.inj (hbefore.symm.trans hone))).2
  obtain ⟨failure, htwo⟩ : ∃ failure, runDatum 4 .topLevel mixedData[1]
      ({ input := ["x"], output := "one\n" } : Recording) =
        some (failure, { input := ["x"], output := "one\ntwo\n" }) := ⟨_, rfl⟩
  obtain rfl := (Prod.mk.inj (Option.some.inj (hown.symm.trans htwo))).2
  obtain ⟨t', ht, -⟩ := hwithout rfl
  obtain ⟨others, hothers⟩ : ∃ others,
      runData 4 .topLevel (mixedData.eraseIdx 1) ({ input := ["x"] } : Recording) =
        some (others, { input := [], output := "one\n> x\n" }) := ⟨_, rfl⟩
  obtain rfl := (Prod.mk.inj (Option.some.inj (ht.symm.trans hothers))).2
  exact ⟨outcomes, hrun, hfailed, ht⟩

end ArrowLisp
