import ArrowLisp.Proofs.Simulation

/-!
# Built-in operations on related values

Built-in operations look at data and at the names of operations, and never into a closure. So, if
their arguments are related by a relation that only tells closures apart, they make equal data,
hand on related values, or fail alike with related values in the cause. What they do to the console
is the same, also on two consoles that a program cannot tell apart.
-/

namespace ArrowLisp

open ArrowLisp.Action

/-- Equal data, the same operation, or any two closures. -/
inductive Value.SameForm : Value → Value → Prop
  | number (x : Float) : SameForm (.number x) (.number x)
  | text (s : String) : SameForm (.text s) (.text s)
  | truth (b : Bool) : SameForm (.truth b) (.truth b)
  | primitive (name : String) : SameForm (.primitive name) (.primitive name)
  | closure {params params' : List String} {body body' : Expr} {scope scope' : Scope} :
      SameForm (.closure params body scope) (.closure params' body' scope')

namespace Value.SameForm

variable {v v' w w' : Value}

theorem refl (v : Value) : v.SameForm v := by
  cases v <;> constructor

theorem render_eq (h : v.SameForm v') : v.render = v'.render := by
  cases h <;> rfl

theorem isCallable_eq (h : v.SameForm v') : v.isCallable = v'.isCallable := by
  cases h <;> rfl

theorem number?_eq (h : v.SameForm v') : v.number? = v'.number? := by
  cases h <;> rfl

theorem sameData_eq (h : v.SameForm v') (h' : w.SameForm w') : v.sameData w = v'.sameData w' := by
  cases h <;> cases h' <;> rfl

end Value.SameForm

/-- Data are related to themselves, and all that is related has the same form. -/
structure Outward (R : Value → Value → Prop) : Prop where
  data : ∀ {v}, v.isCallable = false → R v v
  form : ∀ {v w}, R v w → v.SameForm w

/-- Equal, and not a function. -/
def SameDatum (v w : Value) : Prop :=
  v = w ∧ v.isCallable = false

theorem Outward.of_sameDatum {R : Value → Value → Prop} (hR : Outward R) {v w : Value}
    (h : SameDatum v w) : R v w := by
  obtain ⟨rfl, hdata⟩ := h
  exact hR.data hdata

/-! ## Errors with related values in them -/

/-- The same cause with related values in it. -/
inductive Cause.Related (R : Value → Value → Prop) : Cause → Cause → Prop
  | unbound (name : String) : Related R (.unbound name) (.unbound name)
  | notTruth {v w : Value} : R v w → Related R (.notTruth v) (.notTruth w)
  | notCallable {v w : Value} : R v w → Related R (.notCallable v) (.notCallable w)
  | wrongCount (expected : Arity) {args args' : List Value} :
      List.Forall₂ R args args' →
      Related R (.wrongCount expected args) (.wrongCount expected args')
  | wrongOperands (name : String) (expected : Operands) {args args' : List Value} :
      List.Forall₂ R args args' →
      Related R (.wrongOperands name expected args) (.wrongOperands name expected args')
  | divisionByZero {args args' : List Value} :
      List.Forall₂ R args args' → Related R (.divisionByZero args) (.divisionByZero args')
  | notJoinable {v w : Value} : R v w → Related R (.notJoinable v) (.notJoinable w)
  | unknownOperation (name : String) {args args' : List Value} :
      List.Forall₂ R args args' →
      Related R (.unknownOperation name args) (.unknownOperation name args')
  | raised (text : String) : Related R (.raised text) (.raised text)
  | notNumber (line : String) : Related R (.notNumber line) (.notNumber line)
  | console (failure : ConsoleFailure) : Related R (.console failure) (.console failure)

/-- The same trail, and the same cause with related values in it. -/
def ErrorRelated (R : Value → Value → Prop) (e f : EvalError) : Prop :=
  e.trail = f.trail ∧ Cause.Related R e.cause f.cause

theorem ErrorRelated.within {R : Value → Value → Prop} {e f : EvalError} (h : ErrorRelated R e f)
    (step : Step) : ErrorRelated R (e.within step) (f.within step) :=
  ⟨congrArg (step :: ·) h.1, h.2⟩

theorem Cause.Related.eq {R : Value → Value → Prop} (hR : ∀ {v w}, R v w → v = w) {c c' : Cause}
    (h : Cause.Related R c c') : c = c' := by
  have hrow : ∀ {args args'}, List.Forall₂ R args args' → args = args' := by
    intro args args' hargs
    rw [← List.forall₂_eq_eq_eq]
    exact hargs.imp fun _ _ => hR
  cases h
  case notTruth hv => rw [hR hv]
  case notCallable hv => rw [hR hv]
  case wrongCount hargs => rw [hrow hargs]
  case wrongOperands hargs => rw [hrow hargs]
  case divisionByZero hargs => rw [hrow hargs]
  case notJoinable hv => rw [hR hv]
  case unknownOperation hargs => rw [hrow hargs]
  all_goals rfl

theorem ErrorRelated.eq {R : Value → Value → Prop} (hR : ∀ {v w}, R v w → v = w) {e f : EvalError}
    (h : ErrorRelated R e f) : e = f := by
  obtain ⟨trail, cause⟩ := e
  obtain ⟨trail', cause'⟩ := f
  obtain rfl : trail = trail' := h.1
  obtain rfl : cause = cause' := h.2.eq hR
  rfl

theorem Cause.Related.ctorIdx_eq {R : Value → Value → Prop} {c c' : Cause}
    (h : Cause.Related R c c') : c.ctorIdx = c'.ctorIdx := by
  cases h <;> rfl

section Messages

variable {R : Value → Value → Prop} (hR : ∀ {v w}, R v w → v.SameForm w)
include hR

theorem renderAll_eq_of_related {args args' : List Value} (h : List.Forall₂ R args args') :
    Value.renderAll args = Value.renderAll args' := by
  have hmap : args.map Value.render = args'.map Value.render := by
    induction h with
    | nil => rfl
    | cons hv _ ih => rw [List.map_cons, List.map_cons, (hR hv).render_eq, ih]
  rw [Value.renderAll, hmap, Value.renderAll]

/-- Values of the same form are shown alike, so related causes have one message. -/
theorem Cause.Related.message_eq {c c' : Cause} (h : Cause.Related R c c') :
    c.message = c'.message := by
  cases h <;> dsimp only [Cause.message]
  case notTruth hv => rw [(hR hv).render_eq]
  case notCallable hv => rw [(hR hv).render_eq]
  case wrongCount hargs => rw [hargs.length_eq, renderAll_eq_of_related hR hargs]
  case wrongOperands hargs => rw [renderAll_eq_of_related hR hargs]
  case divisionByZero hargs => rw [renderAll_eq_of_related hR hargs]
  case notJoinable hv => rw [(hR hv).render_eq]
  case unknownOperation hargs => rw [renderAll_eq_of_related hR hargs]

theorem ErrorRelated.message_eq {e f : EvalError} (h : ErrorRelated R e f) :
    e.message = f.message := by
  unfold EvalError.message
  rw [h.1, h.2.message_eq hR]

end Messages

/-! ## Operations without effects -/

/-- Related values, or the same cause with related values in it. -/
inductive Made {α β : Type} (R : Value → Value → Prop) (V : α → β → Prop) :
    Except Cause α → Except Cause β → Prop
  | value {a : α} {b : β} : V a b → Made R V (.ok a) (.ok b)
  | cause {c c' : Cause} : Cause.Related R c c' → Made R V (.error c) (.error c')

theorem eq_of_number? {v : Value} {x : Float} (h : v.number? = some x) : v = .number x := by
  cases v <;> cases h
  rfl

/-- Arguments are not two, are two that are not both numbers, or are two numbers. -/
theorem operands_cases (args : List Value) :
    args.length ≠ 2 ∨ (∃ v w, args = [v, w] ∧ (v.number? = none ∨ w.number? = none)) ∨
      ∃ x y, args = [.number x, .number y] := by
  by_cases hlen : args.length = 2
  · obtain ⟨v, w, rfl⟩ := List.length_eq_two.1 hlen
    by_cases hnum : v.number? = none ∨ w.number? = none
    · exact Or.inr (Or.inl ⟨v, w, rfl, hnum⟩)
    · obtain ⟨hv, hw⟩ := not_or.1 hnum
      obtain ⟨x, hx⟩ := Option.ne_none_iff_exists'.1 hv
      obtain ⟨y, hy⟩ := Option.ne_none_iff_exists'.1 hw
      exact Or.inr (Or.inr ⟨x, y, by rw [eq_of_number? hx, eq_of_number? hy]⟩)
  · exact Or.inl hlen

theorem equal_wrongCount {args : List Value} (h : args.length ≠ 2) :
    Primitive.equal args = .error (.wrongCount (.exactly 2) args) := by
  unfold Primitive.equal
  split
  · exact absurd rfl h
  · rfl

theorem raise_wrongCount {args : List Value} (h : args.length ≠ 1) :
    Primitive.raise args = .error (.wrongCount (.exactly 1) args) := by
  unfold Primitive.raise
  split
  · exact absurd rfl h
  · exact absurd rfl h
  · rfl

theorem arithmetic_wrongCount {args : List Value} (h : args.length ≠ 2) (name : String) :
    arithmetic name args = .error (.wrongCount (.exactly 2) args) := by
  unfold arithmetic
  split
  · exact absurd rfl h
  · exact absurd rfl h
  · rfl

theorem arithmetic_wrongOperands {v w : Value} (h : v.number? = none ∨ w.number? = none)
    (name : String) :
    arithmetic name [v, w] = .error (.wrongOperands name .twoNumbers [v, w]) := by
  unfold arithmetic
  split
  · next x y hargs =>
    simp only [List.cons.injEq, and_true] at hargs
    obtain ⟨rfl, rfl⟩ := hargs
    rcases h with h | h <;> cases h
  · next hargs =>
    simp only [List.cons.injEq, and_true] at hargs
    obtain ⟨rfl, rfl⟩ := hargs
    rfl
  · next hne => exact absurd rfl (hne v w)

section Pure

variable {R : Value → Value → Prop} (hR : Outward R)
include hR

theorem forall₂_of_data {args : List Value} (h : ∀ v ∈ args, v.isCallable = false) :
    List.Forall₂ R args args :=
  List.forall₂_same.2 fun v hv => hR.data (h v hv)

/-- Arithmetic on two numbers has no closures to look at. -/
theorem arithmetic_numbers (name : String) (x y : Float) :
    Made R SameDatum (arithmetic name [.number x, .number y])
      (arithmetic name [.number x, .number y]) := by
  have hargs : List.Forall₂ R [.number x, .number y] [.number x, .number y] :=
    forall₂_of_data hR (by simp [Value.isCallable])
  simp only [arithmetic]
  split
  · exact .value ⟨rfl, rfl⟩
  split
  · exact .value ⟨rfl, rfl⟩
  split
  · exact .value ⟨rfl, rfl⟩
  split
  · split
    · exact .cause (.divisionByZero hargs)
    · exact .value ⟨rfl, rfl⟩
  split
  · exact .value ⟨rfl, rfl⟩
  · exact .cause (.unknownOperation name hargs)

variable {args args' : List Value} (h : List.Forall₂ R args args')
include h

theorem arithmetic_related (name : String) :
    Made R SameDatum (arithmetic name args) (arithmetic name args') := by
  rcases operands_cases args with hlen | ⟨v, w, rfl, hnum⟩ | ⟨x, y, rfl⟩
  · rw [arithmetic_wrongCount hlen, arithmetic_wrongCount (h.length_eq ▸ hlen)]
    exact .cause (.wrongCount _ h)
  · obtain ⟨v', hv, w', hw, rfl⟩ : ∃ v', R v v' ∧ ∃ w', R w w' ∧ args' = [v', w'] := by
      obtain _ | ⟨hv, _ | ⟨hw, _ | _⟩⟩ := h
      exact ⟨_, hv, _, hw, rfl⟩
    have hnum' : v'.number? = none ∨ w'.number? = none := by
      rwa [← (hR.form hv).number?_eq, ← (hR.form hw).number?_eq]
    rw [arithmetic_wrongOperands hnum, arithmetic_wrongOperands hnum']
    exact .cause (.wrongOperands name _ h)
  · obtain _ | ⟨hx, _ | ⟨hy, _ | _⟩⟩ := h
    cases hR.form hx
    cases hR.form hy
    exact arithmetic_numbers hR name x y

theorem joinText_related : Made R Eq (joinText args) (joinText args') := by
  induction h with
  | nil => exact .value rfl
  | @cons v w rest rest' hv _ ih =>
      have hjoin : ∀ head : String, Made R Eq
          (joinText rest >>= fun tail => pure (head ++ tail))
          (joinText rest' >>= fun tail => pure (head ++ tail)) := by
        intro head
        generalize joinText rest = r, joinText rest' = r' at ih ⊢
        cases ih with
        | value htail => exact .value (congrArg (head ++ ·) htail)
        | cause hc => exact .cause hc
      cases hR.form hv with
      | number x => exact hjoin _
      | text s => exact hjoin _
      | truth b => exact hjoin _
      | primitive name => exact .cause (.notJoinable hv)
      | closure => exact .cause (.notJoinable hv)

theorem join_related :
    Made R SameDatum ((joinText args).map .text) ((joinText args').map .text) := by
  have hjoin := joinText_related hR h
  generalize joinText args = r, joinText args' = r' at hjoin ⊢
  cases hjoin with
  | value htext => exact .value ⟨congrArg Value.text htext, rfl⟩
  | cause hc => exact .cause hc

theorem equal_related : Made R SameDatum (Primitive.equal args) (Primitive.equal args') := by
  by_cases hlen : args.length = 2
  · obtain ⟨v, w, rfl⟩ := List.length_eq_two.1 hlen
    obtain _ | ⟨hv, _ | ⟨hw, _ | _⟩⟩ := h
    have hsame := (hR.form hv).sameData_eq (hR.form hw)
    exact .value ⟨congrArg Value.truth hsame, rfl⟩
  · rw [equal_wrongCount hlen, equal_wrongCount (h.length_eq ▸ hlen)]
    exact .cause (.wrongCount _ h)

theorem raise_related : Made R SameDatum (Primitive.raise args) (Primitive.raise args') := by
  by_cases hlen : args.length = 1
  · obtain ⟨v, rfl⟩ := List.length_eq_one_iff.1 hlen
    obtain _ | ⟨hv, _ | _⟩ := h
    cases hR.form hv <;> exact .cause (.raised _)
  · rw [raise_wrongCount hlen, raise_wrongCount (h.length_eq ▸ hlen)]
    exact .cause (.wrongCount _ h)

omit hR in
theorem sequence_related : Made R R (Primitive.sequence args) (Primitive.sequence args') := by
  have hlast := List.forall₂_reverse_iff.2 h
  rw [Primitive.sequence, Primitive.sequence, List.getLast?_eq_head?_reverse,
    List.getLast?_eq_head?_reverse]
  generalize args.reverse = last, args'.reverse = last' at hlast ⊢
  cases hlast with
  | nil => exact .cause (.wrongCount _ .nil)
  | cons hv _ => exact .value hv

end Pure

/-! ## Operations with effects -/

section Effects

variable {σ τ : Type}

section Results

variable {S : σ → τ → Prop} {R V : Value → Value → Prop}

theorem agrees_fail_related {α β : Type} {W : α → β → Prop} {c c' : Cause}
    (h : Cause.Related R c c') :
    Agrees S (ErrorRelated R) W (fail c : Action σ α) (fail c' : Action τ β) :=
  agrees_fail ⟨rfl, h⟩

theorem agrees_ofResult {r r' : Except Cause Value} (h : Made R V r r') :
    Agrees S (ErrorRelated R) V (Primitive.ofResult r : Action σ Value)
      (Primitive.ofResult r' : Action τ Value) := by
  cases h with
  | value hv => exact agrees_pure hv
  | cause hc => exact agrees_fail_related hc

end Results

variable [Console σ] [Console τ]

/-- States of two consoles that a program cannot tell apart: the same line is taken from both or
both fail alike, a text is printed on both or both fail alike, and all of this leads to such states
again. -/
structure Indistinct (S : σ → τ → Prop) : Prop where
  takeLine : ∀ {s t}, S s t → (Console.takeLine s).1 = (Console.takeLine t).1 ∧
    S (Console.takeLine s).2 (Console.takeLine t).2
  print : ∀ {s t} (text : String), S s t →
    (Console.print text s).1 = (Console.print text t).1 ∧
      S (Console.print text s).2 (Console.print text t).2

omit [Console τ] in
/-- A console cannot be told apart from itself. -/
theorem indistinct_eq : Indistinct (Eq : σ → σ → Prop) where
  takeLine := by
    rintro s _ rfl
    exact ⟨rfl, rfl⟩
  print := by
    rintro s _ text rfl
    exact ⟨rfl, rfl⟩

omit [Console τ] in
theorem println_wrongCount {args : List Value} (h : args.length ≠ 1) :
    (Primitive.println args : Action σ Value) = fail (.wrongCount (.exactly 1) args) := by
  unfold Primitive.println
  split
  · exact absurd rfl h
  · exact absurd rfl h
  · rfl

variable {S : σ → τ → Prop} (hS : Indistinct S) {R : Value → Value → Prop}
include hS

/-- A line that is printed on one of the consoles is printed on the other. -/
theorem Indistinct.printLine (text : String) {s : σ} {t : τ} (hs : S s t) :
    (Console.printLine text s).1 = (Console.printLine text t).1 ∧
      S (Console.printLine text s).2 (Console.printLine text t).2 := by
  obtain ⟨hprinted, hrest⟩ := hS.print text hs
  unfold Console.printLine
  generalize Console.print text s = p, Console.print text t = q at hprinted hrest ⊢
  obtain ⟨printed, s'⟩ := p
  obtain ⟨printed', t'⟩ := q
  obtain rfl : printed = printed' := hprinted
  cases printed with
  | ok _ => exact hS.print "\n" hrest
  | error failure => exact ⟨rfl, hrest⟩

theorem agrees_printLine (text : String) :
    Agrees S (ErrorRelated R) Eq (Action.printLine text : Action σ Unit)
      (Action.printLine text : Action τ Unit) :=
  agrees_ask (fun failure => ⟨rfl, .console failure⟩) (hS.printLine text)

theorem agrees_promptLine :
    Agrees S (ErrorRelated R) Eq (Primitive.promptLine : Action σ String)
      (Primitive.promptLine : Action τ String) := by
  have hprompt : Agrees S (ErrorRelated R) Eq (Action.print inputPrompt : Action σ Unit)
      (Action.print inputPrompt : Action τ Unit) :=
    agrees_ask (fun failure => ⟨rfl, .console failure⟩) (hS.print inputPrompt)
  exact hprompt.bind fun _ _ _ => agrees_ask (fun failure => ⟨rfl, .console failure⟩) hS.takeLine

variable (hR : Outward R) {args args' : List Value} (h : List.Forall₂ R args args')
include h

theorem agrees_readNumber :
    Agrees S (ErrorRelated R) SameDatum (Primitive.readNumber args : Action σ Value)
      (Primitive.readNumber args' : Action τ Value) := by
  cases h with
  | nil =>
      refine (agrees_promptLine hS).bind ?_
      rintro line _ rfl
      cases Number.parse (Text.trim line.toList) with
      | some x => exact agrees_pure ⟨rfl, rfl⟩
      | none => exact agrees_fail_related (.notNumber line)
  | cons hv hrest => exact agrees_fail_related (.wrongCount _ (.cons hv hrest))

theorem agrees_readText :
    Agrees S (ErrorRelated R) SameDatum (Primitive.readText args : Action σ Value)
      (Primitive.readText args' : Action τ Value) := by
  cases h with
  | nil =>
      refine (agrees_promptLine hS).bind ?_
      rintro line _ rfl
      exact agrees_pure ⟨rfl, rfl⟩
  | cons hv hrest => exact agrees_fail_related (.wrongCount _ (.cons hv hrest))

include hR

theorem agrees_println :
    Agrees S (ErrorRelated R) SameDatum (Primitive.println args : Action σ Value)
      (Primitive.println args' : Action τ Value) := by
  by_cases hlen : args.length = 1
  · obtain ⟨v, rfl⟩ := List.length_eq_one_iff.1 hlen
    obtain ⟨w, hv, rfl⟩ : ∃ w, R v w ∧ args' = [w] := by
      obtain _ | ⟨hv, _ | _⟩ := h
      exact ⟨_, hv, rfl⟩
    cases hR.form hv with
    | text s =>
        exact (agrees_printLine hS s).bind fun _ _ _ => agrees_pure ⟨rfl, rfl⟩
    | _ => exact agrees_fail_related (.wrongOperands "println" _ h)
  · rw [println_wrongCount hlen, println_wrongCount (h.length_eq ▸ hlen)]
    exact agrees_fail_related (.wrongCount _ h)

/-- Built-in operations other than `seq` make data. -/
theorem agrees_primitive_datum {name : String} (hseq : name ≠ "seq") :
    Agrees S (ErrorRelated R) SameDatum (Primitive.apply name args : Action σ Value)
      (Primitive.apply name args' : Action τ Value) := by
  unfold Primitive.apply
  split
  · exact agrees_println hS hR h
  split
  · exact agrees_readNumber hS h
  split
  · exact agrees_readText hS h
  split
  · exact agrees_ofResult (join_related hR h)
  split
  · exact agrees_ofResult (equal_related hR h)
  split
  · exact agrees_ofResult (raise_related hR h)
  · exact agrees_ofResult (arithmetic_related hR h name)

/-- Built-in operations make related values of related arguments. -/
theorem agrees_primitive (name : String) :
    Agrees S (ErrorRelated R) R (Primitive.apply name args : Action σ Value)
      (Primitive.apply name args' : Action τ Value) := by
  by_cases hseq : name = "seq"
  · subst hseq
    exact agrees_ofResult (sequence_related h)
  · exact (agrees_primitive_datum hS hR h hseq).mono (fun _ _ he => he) fun _ _ => hR.of_sameDatum

omit h hR in
/-- A built-in operation gives the same on consoles that cannot be told apart. -/
theorem agrees_primitive_self (name : String) (args : List Value) :
    Agrees S Eq Eq (Primitive.apply name args : Action σ Value)
      (Primitive.apply name args : Action τ Value) := by
  have hR : Outward (Eq : Value → Value → Prop) :=
    { data := fun _ => rfl, form := fun {v _} hvw => hvw ▸ .refl v }
  have hargs : List.Forall₂ Eq args args := List.forall₂_same.2 fun _ _ => rfl
  exact (agrees_primitive hS hR hargs name).mono (fun _ _ he => he.eq fun hvw => hvw)
    fun _ _ hv => hv

end Effects

end ArrowLisp
