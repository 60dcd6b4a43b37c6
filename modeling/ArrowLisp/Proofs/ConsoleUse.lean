import ArrowLisp.Proofs.Lockstep

/-!
# What programs do with the console

A program deals with the console through three operations only, and in two ways: it prints a line,
or it prints a prompt and takes a line. So what it prints is put behind what is there already, lines
are taken in order, and neither the earlier output nor the lines that stay untaken make a difference
to it. Lines that are added to the input can be noticed only by a program that runs out of lines,
and no program does so without failing for that reason.
-/

namespace ArrowLisp

open ArrowLisp.Action

/-- The operations that print or take lines. -/
def consoleOperations : List String :=
  ["println", "read-num", "read-str"]

/-- What a typed line stands for where a number is asked for. -/
def numberAnswer (line : String) : Except Cause Value :=
  match Number.parse (Text.trim line.toList) with
  | some x => .ok (.number x)
  | none => .error (.notNumber line)

theorem readNumber_nil {σ : Type} [Console σ] :
    (Primitive.readNumber [] : Action σ Value) =
      Primitive.promptLine >>= fun line => Primitive.ofResult (numberAnswer line) := by
  have hanswer : ∀ line : String,
      (match Number.parse (Text.trim line.toList) with
        | some x => pure (.number x)
        | none => fail (.notNumber line) : Action σ Value) =
      Primitive.ofResult (numberAnswer line) := by
    intro line
    unfold numberAnswer
    cases Number.parse (Text.trim line.toList) <;> rfl
  exact congrArg (Primitive.promptLine >>= ·) (funext hanswer)

/-- What becomes of a prompt for a line, and the state after it: the prompt is not printed, or it is
and the console answers. -/
inductive Prompted {σ : Type} [Console σ] (s : σ) : Except ConsoleFailure String → σ → Prop
  | refused {failure : ConsoleFailure} {s' : σ} :
      Console.print inputPrompt s = (.error failure, s') → Prompted s (.error failure) s'
  | answered {answer : Except ConsoleFailure String} {s₁ s' : σ} :
      Console.print inputPrompt s = (.ok (), s₁) → Console.takeLine s₁ = (answer, s') →
      Prompted s answer s'

section Prompts

variable {σ : Type} [Console σ] {s s' : σ}

theorem promptLine_eq_ok {line : String} :
    Primitive.promptLine s = some (.ok line, s') ↔ Prompted s (.ok line) s' := by
  constructor
  · intro h
    obtain ⟨⟨⟩, s₁, hprint, htake⟩ := bind_eq_ok.1 h
    exact .answered (ask_eq_ok.1 hprint) (ask_eq_ok.1 htake)
  · intro h
    obtain _ | ⟨hprint, htake⟩ := h
    exact bind_eq_ok.2 ⟨(), _, ask_eq_ok.2 hprint, ask_eq_ok.2 htake⟩

theorem promptLine_eq_error {e : EvalError} :
    Primitive.promptLine s = some (.error e, s') ↔
      ∃ failure, Prompted s (.error failure) s' ∧ e = { cause := .console failure } := by
  constructor
  · intro h
    rcases bind_eq_error.1 h with ⟨⟨⟩, s₁, hprint, htake⟩ | hprint
    · obtain ⟨failure, hfailure, he⟩ := ask_eq_error.1 htake
      exact ⟨failure, .answered (ask_eq_ok.1 hprint) hfailure, he⟩
    · obtain ⟨failure, hfailure, he⟩ := ask_eq_error.1 hprint
      exact ⟨failure, .refused hfailure, he⟩
  · rintro ⟨failure, hfailure, rfl⟩
    cases hfailure with
    | refused hprint => exact bind_eq_error.2 (Or.inr (ask_eq_error.2 ⟨failure, hprint, rfl⟩))
    | answered hprint htake =>
        exact bind_eq_error.2
          (Or.inl ⟨(), _, ask_eq_ok.2 hprint, ask_eq_error.2 ⟨failure, htake, rfl⟩⟩)

end Prompts

/-- An operation has a result of its own, or prints a line, or takes a line and makes a result of
it. Only three operations ever do more than the first. -/
theorem primitive_cases (name : String) (args : List Value) :
    (∃ result, ∀ (σ : Type) [Console σ],
      (Primitive.apply name args : Action σ Value) = Primitive.ofResult result) ∨
    name ∈ consoleOperations ∧
      ((∃ text, ∀ (σ : Type) [Console σ], (Primitive.apply name args : Action σ Value) =
          do printLine text; return .truth true) ∨
        ∃ answer : String → Except Cause Value, ∀ (σ : Type) [Console σ],
          (Primitive.apply name args : Action σ Value) =
            Primitive.promptLine >>= fun line => Primitive.ofResult (answer line)) := by
  by_cases hprintln : name = "println"
  · subst hprintln
    by_cases hlen : args.length = 1
    · obtain ⟨v, rfl⟩ := List.length_eq_one_iff.1 hlen
      cases v with
      | text s => exact Or.inr ⟨by decide, Or.inl ⟨s, fun _ _ => rfl⟩⟩
      | _ => exact Or.inl ⟨.error _, fun _ _ => rfl⟩
    · exact Or.inl ⟨.error _, fun _ _ => println_wrongCount hlen⟩
  by_cases hnumber : name = "read-num"
  · subst hnumber
    cases args with
    | nil => exact Or.inr ⟨by decide, Or.inr ⟨numberAnswer, fun _ _ => readNumber_nil⟩⟩
    | cons v rest => exact Or.inl ⟨.error _, fun _ _ => rfl⟩
  by_cases htext : name = "read-str"
  · subst htext
    cases args with
    | nil => exact Or.inr ⟨by decide, Or.inr ⟨fun line => .ok (.text line), fun _ _ => rfl⟩⟩
    | cons v rest => exact Or.inl ⟨.error _, fun _ _ => rfl⟩
  refine Or.inl ⟨if name = "seq" then Primitive.sequence args
    else if name = "++" then (joinText args).map .text
    else if name = "equal?" then Primitive.equal args
    else if name = "error" then Primitive.raise args
    else arithmetic name args, fun _ _ => ?_⟩
  simp only [Primitive.apply, if_neg hprintln, if_neg hnumber, if_neg htext]
  split_ifs <;> rfl

section Results

variable {σ τ : Type}

theorem agrees_ofResult_self (S : σ → τ → Prop) (result : Except Cause Value) :
    Agrees S Eq Eq (Primitive.ofResult result : Action σ Value)
      (Primitive.ofResult result : Action τ Value) := by
  cases result with
  | ok v => exact agrees_pure rfl
  | error cause => exact agrees_fail rfl

theorem repeats_ofResult {S : σ → τ → Prop} {Excused : EvalError → Prop}
    (result : Except Cause Value) :
    Repeats S Excused (Primitive.ofResult result : Action σ Value)
      (Primitive.ofResult result : Action τ Value) := by
  cases result with
  | ok v => exact repeats_pure v
  | error cause => exact repeats_fail cause

variable [Console σ] [Console τ]

/-- The other operations leave every console as it is, so they do not tell any two apart. -/
theorem agrees_primitive_apart (S : σ → τ → Prop) {name : String} (h : name ∉ consoleOperations)
    (args : List Value) :
    Agrees S Eq Eq (Primitive.apply name args : Action σ Value)
      (Primitive.apply name args : Action τ Value) := by
  rcases primitive_cases name args with ⟨result, hresult⟩ | ⟨hname, -⟩
  · rw [hresult σ, hresult τ]
    exact agrees_ofResult_self S result
  · exact absurd hname h

end Results

/-! ## Consoles with more to take -/

/-- A failure of the console to give a line or to print a text. -/
def EvalError.OfConsole (e : EvalError) : Prop :=
  ∃ failure, e.cause = .console failure

section More

variable {σ τ : Type} [Console σ] [Console τ]

/-- States of two consoles of which the second grants all that the first grants, and perhaps more: a
line taken from the first is taken from the second, a text printed on the first is printed on the
second, and both lead to such states again. -/
structure Outlasts (S : σ → τ → Prop) : Prop where
  takeLine : ∀ {s t line}, S s t → (Console.takeLine s).1 = .ok line →
    (Console.takeLine t).1 = .ok line ∧ S (Console.takeLine s).2 (Console.takeLine t).2
  print : ∀ {s t} (text : String), S s t → (Console.print text s).1 = .ok () →
    (Console.print text t).1 = .ok () ∧ S (Console.print text s).2 (Console.print text t).2

variable {S : σ → τ → Prop} (hS : Outlasts S)
include hS

/-- A line that is printed on the first console is printed on the second. -/
theorem Outlasts.printLine (text : String) {s : σ} {t : τ} (hs : S s t)
    (h : (Console.printLine text s).1 = .ok ()) :
    (Console.printLine text t).1 = .ok () ∧
      S (Console.printLine text s).2 (Console.printLine text t).2 := by
  have hprint := hS.print text hs
  unfold Console.printLine at h ⊢
  generalize Console.print text s = p, Console.print text t = q at h hprint ⊢
  obtain ⟨printed, s'⟩ := p
  obtain ⟨printed', t'⟩ := q
  cases printed with
  | error failure => cases h
  | ok _ =>
      obtain ⟨hprinted, hrest⟩ := hprint rfl
      obtain rfl : printed' = .ok () := hprinted
      exact hS.print "\n" hrest h

omit [Console σ] [Console τ] hS in
/-- Requests that the second console grants where the first one does. -/
theorem repeats_request {α : Type} {request : σ → Except ConsoleFailure α × σ}
    {request' : τ → Except ConsoleFailure α × τ}
    (h : ∀ {s t a}, S s t → (request s).1 = .ok a →
      (request' t).1 = .ok a ∧ S (request s).2 (request' t).2) :
    Repeats S EvalError.OfConsole (ask request) (ask request') :=
  repeats_ask (fun failure => ⟨failure, rfl⟩) h

/-- An operation goes on alike where the console grants more, unless the console fails it. -/
theorem repeats_primitive (name : String) (args : List Value) :
    Repeats S EvalError.OfConsole (Primitive.apply name args : Action σ Value)
      (Primitive.apply name args : Action τ Value) := by
  rcases primitive_cases name args with ⟨result, hresult⟩ | ⟨-, ⟨text, htext⟩ | ⟨answer, hanswer⟩⟩
  · rw [hresult σ, hresult τ]
    exact repeats_ofResult result
  · rw [htext σ, htext τ]
    exact (repeats_request (hS.printLine text)).bind fun _ => repeats_pure _
  · rw [hanswer σ, hanswer τ]
    have hprompt : Repeats S EvalError.OfConsole (Primitive.promptLine : Action σ String)
        (Primitive.promptLine : Action τ String) :=
      (repeats_request (hS.print inputPrompt)).bind fun _ => repeats_request hS.takeLine
    exact hprompt.bind fun line => repeats_ofResult (answer line)

end More

/-! ## Recordings and failing consoles -/

/-- Scripted lines, and an output with room for so many texts. -/
structure Limited where
  input : List String := []
  room : Nat
  output : String := ""
deriving DecidableEq, Repr

instance : Console Limited where
  takeLine s := ((nextLine s.input).1, { s with input := (nextLine s.input).2 })
  print text s :=
    match s.room with
    | 0 => (.error (.device "No space left on device (os error 28)"), s)
    | room + 1 => (.ok (), { s with room, output := s.output ++ text })
  report _ s := s
  announce _ s := s

theorem print_recording (text : String) (input : List String) (output : String) :
    Console.print text ({ input, output } : Recording) =
      (.ok (), { input, output := output ++ text }) :=
  rfl

/-- Two recordings after the same lines were taken and the same texts printed. They started with the
lines `r`, the second one with `more` behind them, and with outputs of their own. -/
def Abreast (r more : List String) (o o' : String) (a b : Recording) : Prop :=
  ∃ k w, k ≤ r.length ∧ a = { input := r.drop k, output := o ++ w } ∧
    b = { input := r.drop k ++ more, output := o' ++ w }

section Abreast

variable {r more : List String} {o o' : String} {a b : Recording}

theorem abreast_start (r more : List String) (o o' : String) :
    Abreast r more o o' { input := r, output := o } { input := r ++ more, output := o' } :=
  ⟨0, "", Nat.zero_le _, by simp, by simp⟩

/-- The first recording tells what was taken and printed on the second. -/
theorem Abreast.eq_of_left (h : Abreast r more o o' a b) {k : Nat} {w : String}
    (ha : a = { input := r.drop k, output := o ++ w }) :
    b = { input := r.drop k ++ more, output := o' ++ w } := by
  obtain ⟨k', w', -, ha', rfl⟩ := h
  obtain ⟨hinput, houtput⟩ := Recording.mk.inj (ha'.symm.trans ha)
  rw [hinput, (String.append_right_inj o).1 houtput]

theorem Abreast.print (h : Abreast r more o o' a b) (text : String) :
    Abreast r more o o' (Console.print text a).2 (Console.print text b).2 := by
  obtain ⟨k, w, hk, rfl, rfl⟩ := h
  refine ⟨k, w ++ text, hk, ?_, ?_⟩
  · rw [print_recording, String.append_assoc]
  · rw [print_recording, String.append_assoc]

/-- A line that is left is taken from both. -/
theorem Abreast.takeLine_of_ok (h : Abreast r more o o' a b) {line : String}
    (hline : (Console.takeLine a).1 = .ok line) :
    (Console.takeLine b).1 = .ok line ∧
      Abreast r more o o' (Console.takeLine a).2 (Console.takeLine b).2 := by
  obtain ⟨k, w, hk, rfl, rfl⟩ := h
  cases hdrop : r.drop k with
  | nil =>
      rw [hdrop] at hline
      cases hline
  | cons first rest =>
      rw [hdrop] at hline
      obtain rfl : first = line := Except.ok.inj hline
      have hlength : r.length - k = rest.length + 1 := by
        rw [← List.length_drop, hdrop, List.length_cons]
      have hrest : r.drop (k + 1) = rest := by
        rw [← List.tail_drop, hdrop, List.tail_cons]
      exact ⟨rfl, k + 1, w, by omega, by rw [hrest]; rfl, by rw [hrest]; rfl⟩

/-- With the same lines on both sides the lines also come to their end together. -/
theorem Abreast.takeLine (h : Abreast r [] o o' a b) :
    (Console.takeLine a).1 = (Console.takeLine b).1 ∧
      Abreast r [] o o' (Console.takeLine a).2 (Console.takeLine b).2 := by
  cases hline : (Console.takeLine a).1 with
  | ok line =>
      obtain ⟨hb, hrest⟩ := h.takeLine_of_ok hline
      exact ⟨hb.symm, hrest⟩
  | error failure =>
      obtain ⟨k, w, hk, rfl, rfl⟩ := h
      cases hdrop : r.drop k with
      | nil =>
          rw [hdrop] at hline
          exact ⟨hline.symm, k, w, hk, by rw [hdrop]; rfl, by rw [hdrop]; rfl⟩
      | cons first rest =>
          rw [hdrop] at hline
          cases hline

theorem outlasts_abreast : Outlasts (Abreast r more o o') where
  takeLine h hline := h.takeLine_of_ok hline
  print text h _ := ⟨rfl, h.print text⟩

theorem indistinct_abreast : Indistinct (Abreast r [] o o') where
  takeLine h := h.takeLine
  print text h := ⟨rfl, h.print text⟩

end Abreast

section Runs

variable {depth : Nat} {e : Expr} {scope : Scope} {r : List String} {o : String}
  {result : Except EvalError Value} {s' : Recording}

theorem eval_other_output (h : eval depth e scope { input := r, output := o } = some (result, s'))
    (o' : String) :
    ∃ t', eval depth e scope ({ input := r, output := o' } : Recording) = some (result, t') ∧
      Abreast r [] o o' s' t' := by
  have hstart := abreast_start r [] o o'
  rw [List.append_nil] at hstart
  have hrun := eval_indistinct indistinct_abreast depth e scope hstart
  rw [h] at hrun
  generalize eval depth e scope ({ input := r, output := o' } : Recording) = y at hrun ⊢
  cases hrun with
  | @some _ q hq => exact ⟨q.2, congrArg some (Prod.ext hq.1.symm rfl), hq.2⟩

theorem eval_more_lines (h : eval depth e scope { input := r, output := o } = some (result, s'))
    (hconsole : ∀ error, result = .error error → ¬error.OfConsole)
    (more : List String) (o' : String) :
    ∃ t', eval depth e scope ({ input := r ++ more, output := o' } : Recording) =
        some (result, t') ∧ Abreast r more o o' s' t' := by
  have hrun := repeats_eval (fun _ _ he => he) (repeats_primitive outlasts_abreast)
    (Nat.le_refl depth) e scope _ _ (abreast_start r more o o') result s' h
  rcases hrun with ⟨error, herror, hfailure⟩ | hrepeated
  · exact absurd hfailure (hconsole error herror)
  · exact hrepeated

/-- What an evaluation does on a recording is local. It takes the first `k` of the lines and puts a
text behind the output, and these and its result are the same for every earlier output. If it does
not fail for want of a line, they are also the same with any lines added to the input. -/
theorem eval_recording_local
    (h : eval depth e scope { input := r, output := o } = some (result, s')) :
    ∃ k w, k ≤ r.length ∧ s' = { input := r.drop k, output := o ++ w } ∧
      (∀ o', eval depth e scope ({ input := r, output := o' } : Recording) =
        some (result, { input := r.drop k, output := o' ++ w })) ∧
      ((∀ error, result = .error error → ¬error.OfConsole) →
        ∀ more o', eval depth e scope ({ input := r ++ more, output := o' } : Recording) =
          some (result, { input := (r ++ more).drop k, output := o' ++ w })) := by
  obtain ⟨-, -, k, w, hk, hs', -⟩ := eval_other_output h o
  refine ⟨k, w, hk, hs', fun o' => ?_, fun hconsole more o' => ?_⟩
  · obtain ⟨t', ht, habreast⟩ := eval_other_output h o'
    rw [ht, habreast.eq_of_left hs', List.append_nil]
  · obtain ⟨t', ht, habreast⟩ := eval_more_lines h hconsole more o'
    rw [ht, habreast.eq_of_left hs', List.drop_append_of_le_length hk]

/-- The program `(seq (println (read-str)) "done")`. -/
def echoLine : Expr :=
  .call (.name "seq")
    [.call (.name "println") [.call (.name "read-str") []], .text "done"]

/-- A line is taken and shown, and the lines behind it make no difference. -/
theorem eval_echoLine_local :
    eval 4 echoLine .topLevel ({ input := ["a", "b"], output := "old" } : Recording) =
        some (.ok (.text "done"), { input := ["b"], output := "old> a\n" }) ∧
      ∃ k w, ({ input := ["b"], output := "old> a\n" } : Recording) =
          { input := ["a", "b"].drop k, output := "old" ++ w } ∧
        ∀ more o', eval 4 echoLine .topLevel
            ({ input := ["a", "b"] ++ more, output := o' } : Recording) =
          some (.ok (.text "done"),
            { input := (["a", "b"] ++ more).drop k, output := o' ++ w }) := by
  have hrun : eval 4 echoLine .topLevel ({ input := ["a", "b"], output := "old" } : Recording) =
      some (.ok (.text "done"), { input := ["b"], output := "old> a\n" }) := rfl
  obtain ⟨k, w, -, hs', -, hmore⟩ := eval_recording_local hrun
  exact ⟨hrun, k, w, hs', hmore (by intro error herror; cases herror)⟩

end Runs

end ArrowLisp
