import ArrowLisp.Proofs.ConsoleUse

/-!
# How built-in operations fail

The failures of the operations, as one table. The number of arguments is looked at first, then their
kinds, then the name where it is none of the dedicated ones, and last a divisor. What the table has
for a name and a row of arguments is what the operation fails with, and it fails before it does
anything to the console. The only other failures are those that the console decides: it does not
print a text, it does not give a line, or it gives one that is no number.
-/

namespace ArrowLisp

open ArrowLisp.Action

/-! ## The table -/

/-- How many arguments the operation of this name takes. -/
def Arity.ofOperation (operation : String) : Arity :=
  if operation = "println" ∨ operation = "error" then .exactly 1
  else if operation = "read-num" ∨ operation = "read-str" then .exactly 0
  else if operation = "seq" then .atLeast 1
  else if operation = "++" then .atLeast 0
  else .exactly 2

/-- The operations with an entry of their own. Every other name is taken for arithmetic. -/
def dedicatedNames : List String :=
  ["println", "read-num", "read-str", "seq", "++", "equal?", "error"]

/-- The failures that the name of an operation and its arguments settle. -/
inductive Cause.Arises (name : String) (args : List Value) : Cause → Prop
  | wrongCount :
      (Arity.ofOperation name).accepts args.length = false →
      Arises name args (.wrongCount (.ofOperation name) args)
  | notText {v : Value} :
      name = "println" → args = [v] → (∀ s, v ≠ .text s) →
      Arises name args (.wrongOperands name .aString args)
  | notNumbers {v w : Value} :
      name ∉ dedicatedNames → args = [v, w] → v.number? = none ∨ w.number? = none →
      Arises name args (.wrongOperands name .twoNumbers args)
  | unknownOperation {x y : Float} :
      name ∉ primitiveNames → args = [.number x, .number y] →
      Arises name args (.unknownOperation name args)
  | divisionByZero {x y : Float} :
      name = "/" → args = [.number x, .number y] → (y == 0) = true →
      Arises name args (.divisionByZero args)
  /-- The leftmost value that cannot be joined is complained about. -/
  | notJoinable {before after : List Value} {v : Value} :
      name = "++" → args = before ++ v :: after → v.isCallable = true →
      (∀ w ∈ before, w.isCallable = false) → Arises name args (.notJoinable v)
  | raisedText {s : String} :
      name = "error" → args = [.text s] → Arises name args (.raised s)
  | raisedValue {v : Value} :
      name = "error" → args = [v] → (∀ s, v ≠ .text s) → Arises name args (.raised v.render)

/-- The failures that a console decides in the state that an operation finds it in. -/
inductive Cause.FromConsole {σ : Type} [Console σ] (name : String) (args : List Value) (s : σ) :
    Cause → Prop
  | notPrinted {text : String} {failure : ConsoleFailure} :
      name = "println" → args = [.text text] → (Console.printLine text s).1 = .error failure →
      FromConsole name args s (.console failure)
  | noLine {failure : ConsoleFailure} {s' : σ} :
      name = "read-num" ∨ name = "read-str" → args = [] → Prompted s (.error failure) s' →
      FromConsole name args s (.console failure)
  | notNumber {line : String} {s' : σ} :
      name = "read-num" → args = [] → Prompted s (.ok line) s' →
      Number.parse (Text.trim line.toList) = none → FromConsole name args s (.notNumber line)

/-- The causes that an operation can fail with, whatever its arguments. -/
def Cause.OfOperation (operation : String) : Cause → Prop
  | .unbound _ => False
  | .notTruth _ => False
  | .notCallable _ => False
  | .wrongCount expected args =>
    expected = Arity.ofOperation operation ∧ expected.accepts args.length = false
  | .wrongOperands name _ _ => name = operation
  | .divisionByZero _ => operation = "/"
  | .notJoinable _ => operation = "++"
  | .unknownOperation name _ => name = operation ∧ operation ∉ primitiveNames
  | .raised _ => operation = "error"
  | .notNumber _ => operation = "read-num"
  | .console _ => operation ∈ ["println", "read-num", "read-str"]

theorem Cause.Arises.ofOperation {name : String} {args : List Value} {cause : Cause}
    (h : cause.Arises name args) : cause.OfOperation name := by
  cases h with
  | wrongCount hcount => exact ⟨rfl, hcount⟩
  | notText => rfl
  | notNumbers => rfl
  | unknownOperation hname => exact ⟨rfl, hname⟩
  | divisionByZero hname => exact hname
  | notJoinable hname => exact hname
  | raisedText hname => exact hname
  | raisedValue hname => exact hname

theorem Cause.FromConsole.ofOperation {σ : Type} [Console σ] {name : String} {args : List Value}
    {s : σ} {cause : Cause} (h : cause.FromConsole name args s) : cause.OfOperation name := by
  cases h with
  | notPrinted hname => exact hname ▸ List.mem_cons_self
  | noLine hname =>
      rcases hname with rfl | rfl
      · show "read-num" ∈ ["println", "read-num", "read-str"]
        decide
      · show "read-str" ∈ ["println", "read-num", "read-str"]
        decide
  | notNumber hname => exact hname

theorem Arity.exactly_accepts_eq_false {n count : Nat} :
    (Arity.exactly n).accepts count = false ↔ count ≠ n := by
  simp [Arity.accepts]

/-- A number of arguments that an operation does not take. -/
theorem Cause.arises_wrongCount {name : String} {n : Nat} {args : List Value}
    (harity : Arity.ofOperation name = .exactly n) (hcount : args.length ≠ n) :
    Cause.Arises name args (.wrongCount (.exactly n) args) := by
  rw [← harity]
  refine .wrongCount ?_
  rw [harity]
  exact Arity.exactly_accepts_eq_false.2 hcount

/-! ## Results of operations without effects -/

theorem joinText_cons_callable {v : Value} (h : v.isCallable = true) (rest : List Value) :
    joinText (v :: rest) = .error (.notJoinable v) := by
  cases v with
  | closure params body scope => rfl
  | primitive name => rfl
  | _ => cases h

theorem joinText_cons_data {v : Value} (h : v.isCallable = false) :
    ∃ text, ∀ rest, joinText (v :: rest) = (joinText rest).map (text ++ ·) := by
  cases v with
  | number x => exact ⟨_, fun _ => rfl⟩
  | text s => exact ⟨_, fun _ => rfl⟩
  | truth b => exact ⟨_, fun _ => rfl⟩
  | _ => cases h

/-- Joining stops at the first value that cannot be joined. -/
theorem joinText_of_notJoinable {before after : List Value} {v : Value} (hv : v.isCallable = true)
    (hbefore : ∀ w ∈ before, w.isCallable = false) :
    joinText (before ++ v :: after) = .error (.notJoinable v) := by
  induction before with
  | nil => exact joinText_cons_callable hv after
  | cons w rest ih =>
      obtain ⟨text, htext⟩ := joinText_cons_data (hbefore w (by simp))
      rw [List.cons_append, htext, ih fun u hu => hbefore u (by simp [hu])]
      rfl

theorem joinText_fails {args : List Value} {cause : Cause} (h : joinText args = .error cause) :
    ∃ before v after, args = before ++ v :: after ∧ v.isCallable = true ∧
      (∀ w ∈ before, w.isCallable = false) ∧ cause = .notJoinable v := by
  induction args with
  | nil => cases h
  | cons v rest ih =>
      cases hv : v.isCallable with
      | true =>
          rw [joinText_cons_callable hv] at h
          cases h
          exact ⟨[], v, rest, rfl, hv, by simp, rfl⟩
      | false =>
          obtain ⟨text, htext⟩ := joinText_cons_data hv
          rw [htext] at h
          cases hrest : joinText rest with
          | ok tail =>
              rw [hrest] at h
              cases h
          | error cause' =>
              rw [hrest] at h
              cases h
              obtain ⟨before, w, after, rfl, hw, hbefore, rfl⟩ := ih hrest
              exact ⟨v :: before, w, after, rfl, hw, by simpa [hv] using hbefore, rfl⟩

theorem sequence_fails {args : List Value} {cause : Cause}
    (h : Primitive.sequence args = .error cause) : cause.Arises "seq" args := by
  cases hlast : args.getLast? with
  | some v =>
      rw [Primitive.sequence, hlast] at h
      cases h
  | none =>
      obtain rfl := List.getLast?_eq_none_iff.1 hlast
      cases h
      exact .wrongCount rfl

theorem equal_fails {args : List Value} {cause : Cause} (h : Primitive.equal args = .error cause) :
    cause.Arises "equal?" args := by
  by_cases hlen : args.length = 2
  · obtain ⟨v, w, rfl⟩ := List.length_eq_two.1 hlen
    cases h
  · rw [equal_wrongCount hlen] at h
    cases h
    exact Cause.arises_wrongCount rfl hlen

theorem raise_fails {args : List Value} {cause : Cause} (h : Primitive.raise args = .error cause) :
    cause.Arises "error" args := by
  by_cases hlen : args.length = 1
  · obtain ⟨v, rfl⟩ := List.length_eq_one_iff.1 hlen
    cases v with
    | text s =>
        cases h
        exact .raisedText rfl rfl
    | _ =>
        cases h
        exact .raisedValue rfl rfl (by intro s hs; cases hs)
  · rw [raise_wrongCount hlen] at h
    cases h
    exact Cause.arises_wrongCount rfl hlen

theorem arity_of_not_dedicated {name : String} (h : name ∉ dedicatedNames) :
    Arity.ofOperation name = .exactly 2 := by
  simp only [dedicatedNames, List.mem_cons, List.not_mem_nil, or_false, not_or] at h
  simp [Arity.ofOperation, h]

/-- Two numbers are refused by a division, or by a name that has no entry at all. -/
theorem arithmetic_fails {name : String} {args : List Value} {cause : Cause}
    (hname : name ∉ dedicatedNames) (h : arithmetic name args = .error cause) :
    cause.Arises name args := by
  rcases operands_cases args with hlen | ⟨v, w, rfl, hnum⟩ | ⟨x, y, rfl⟩
  · rw [arithmetic_wrongCount hlen] at h
    cases h
    exact Cause.arises_wrongCount (arity_of_not_dedicated hname) hlen
  · rw [arithmetic_wrongOperands hnum] at h
    cases h
    exact .notNumbers hname rfl hnum
  · simp only [arithmetic] at h
    repeat' split at h
    all_goals cases h
    · next hdivision hzero => exact .divisionByZero hdivision rfl hzero
    · refine .unknownOperation (fun hmem => ?_) rfl
      simp_all [primitiveNames, dedicatedNames]

/-! ## What the table has is what happens -/

section Table

variable {σ : Type} [Console σ]

theorem Primitive.apply_of_not_dedicated {name : String} (h : name ∉ dedicatedNames)
    (args : List Value) :
    (apply name args : Action σ Value) = ofResult (arithmetic name args) := by
  simp only [dedicatedNames, List.mem_cons, List.not_mem_nil, or_false, not_or] at h
  simp [apply, h]

/-- The number of arguments comes before everything else about them. -/
theorem Primitive.apply_wrongCount {name : String} {args : List Value}
    (h : (Arity.ofOperation name).accepts args.length = false) :
    (apply name args : Action σ Value) = fail (.wrongCount (.ofOperation name) args) := by
  by_cases hname : name ∈ dedicatedNames
  · simp only [dedicatedNames, List.mem_cons, List.not_mem_nil, or_false] at hname
    -- One case for each dedicated operation; `++` takes any number of arguments.
    rcases hname with rfl | rfl | rfl | rfl | rfl | rfl | rfl
    · exact println_wrongCount (Arity.exactly_accepts_eq_false.1 h)
    · cases args with
      | nil => cases h
      | cons v rest => rfl
    · cases args with
      | nil => cases h
      | cons v rest => rfl
    · cases args with
      | nil => rfl
      | cons v rest => cases h
    · cases h
    · show ofResult (equal args) = _
      rw [equal_wrongCount (Arity.exactly_accepts_eq_false.1 h)]
      rfl
    · show ofResult (raise args) = _
      rw [raise_wrongCount (Arity.exactly_accepts_eq_false.1 h)]
      rfl
  · rw [arity_of_not_dedicated hname] at h ⊢
    rw [apply_of_not_dedicated hname, arithmetic_wrongCount (Arity.exactly_accepts_eq_false.1 h)]
    rfl

/-- An operation fails with what the table has for it, and does nothing else. -/
theorem Primitive.apply_of_arises {name : String} {args : List Value} {cause : Cause}
    (h : cause.Arises name args) : (apply name args : Action σ Value) = fail cause := by
  cases h with
  | wrongCount hcount => exact apply_wrongCount hcount
  | @notText v hname hargs hv =>
      subst hname hargs
      cases v with
      | text s => exact absurd rfl (hv s)
      | _ => rfl
  | notNumbers hname hargs hnum =>
      rw [apply_of_not_dedicated hname, hargs, arithmetic_wrongOperands hnum]
      rfl
  | @unknownOperation x y hname hargs =>
      have hdedicated : name ∉ dedicatedNames := by
        simp_all [primitiveNames, dedicatedNames]
      have hresult :
          arithmetic name [.number x, .number y] = .error (.unknownOperation name args) := by
        simp_all [primitiveNames, arithmetic]
      rw [apply_of_not_dedicated hdedicated, hargs, hresult, hargs]
      rfl
  | @divisionByZero x y hname hargs hzero =>
      subst hname hargs
      show ofResult (if y == 0 then _ else _) = _
      rw [if_pos hzero]
      rfl
  | notJoinable hname hargs hv hbefore =>
      subst hname hargs
      show ofResult ((joinText _).map .text) = _
      rw [joinText_of_notJoinable hv hbefore]
      rfl
  | raisedText hname hargs =>
      subst hname hargs
      rfl
  | @raisedValue v hname hargs hv =>
      subst hname hargs
      cases v with
      | text s => exact absurd rfl (hv s)
      | _ => rfl

end Table

/-! ## Nothing else happens but failures of the console -/

section Results

variable {σ α β : Type}

/-- Does the action come to an end from every state? -/
def Action.Ends (act : Action σ α) : Prop :=
  ∀ s, ∃ r s', act s = some (r, s')

theorem ends_ask (request : σ → Except ConsoleFailure α × σ) : (ask request).Ends := by
  intro s
  unfold ask
  rcases request s with ⟨failure | a, s'⟩
  · exact ⟨_, s', rfl⟩
  · exact ⟨_, s', rfl⟩

theorem Action.Ends.bind {act : Action σ α} {next : α → Action σ β} (h : act.Ends)
    (hnext : ∀ a, (next a).Ends) : (act >>= next).Ends := by
  intro s
  obtain ⟨e | a, s₁, hact⟩ := h s
  · exact ⟨_, s₁, bind_eq_error.2 (Or.inr hact)⟩
  · obtain ⟨r, s', hr⟩ := hnext a s₁
    exact ⟨r, s', bind_eq_some.2 (Or.inl ⟨a, s₁, hact, hr⟩)⟩

theorem ends_ofResult (result : Except Cause Value) :
    (Primitive.ofResult result : Action σ Value).Ends := by
  intro s
  cases result with
  | ok v => exact ⟨_, s, rfl⟩
  | error cause => exact ⟨_, s, rfl⟩

theorem Primitive.ofResult_eq_error {result : Except Cause Value} {s s' : σ} {e : EvalError} :
    ofResult result s = some (.error e, s') ↔
      ∃ cause, result = .error cause ∧ e = { cause } ∧ s = s' := by
  cases result with
  | ok v => simp [ofResult, pure, Action.pure]
  | error cause => simp [ofResult, fail, eq_comm]

variable [Console σ]

/-- Operations always come to an end. -/
theorem Primitive.ends_apply (name : String) (args : List Value) :
    (apply name args : Action σ Value).Ends := by
  rcases primitive_cases name args with ⟨result, happly⟩ | ⟨-, ⟨text, happly⟩ | ⟨answer, happly⟩⟩
  · rw [happly σ]
    exact ends_ofResult result
  · rw [happly σ]
    exact (ends_ask _).bind fun _ => ends_ofResult (.ok (.truth true))
  · rw [happly σ]
    exact ((ends_ask _).bind fun _ => ends_ask _).bind fun line => ends_ofResult (answer line)

end Results

section Console

variable {σ : Type} [Console σ] {s s' : σ} {e : EvalError} {name : String} {args : List Value}
  {cause : Cause}

/-- Printing a line fails where the console does not print it, and nowhere else. -/
theorem Primitive.println_text_eq_error {text : String} :
    println [.text text] s = some (.error e, s') ↔
      ∃ failure, Console.printLine text s = (.error failure, s') ∧
        e = { cause := .console failure } := by
  constructor
  · intro h
    rcases bind_eq_error.1 h with ⟨_, _, _, hpure⟩ | hprint
    · cases hpure
    · exact ask_eq_error.1 hprint
  · intro h
    exact bind_eq_error.2 (Or.inr (ask_eq_error.2 h))

/-- An operation that makes something of a line fails where there is no line, or on the line. -/
theorem prompt_eq_error {answer : String → Except Cause Value} :
    (Primitive.promptLine >>= fun line => Primitive.ofResult (answer line)) s =
        some (.error e, s') ↔
      (∃ failure, Prompted s (.error failure) s' ∧ e = { cause := .console failure }) ∨
      ∃ line cause, Prompted s (.ok line) s' ∧ answer line = .error cause ∧ e = { cause } := by
  constructor
  · intro h
    rcases bind_eq_error.1 h with ⟨line, s₁, hline, hanswer⟩ | hprompt
    · obtain ⟨cause, hcause, he, rfl⟩ := Primitive.ofResult_eq_error.1 hanswer
      exact Or.inr ⟨line, cause, promptLine_eq_ok.1 hline, hcause, he⟩
    · exact Or.inl (promptLine_eq_error.1 hprompt)
  · intro h
    rcases h with h | ⟨line, cause, hline, hcause, he⟩
    · exact bind_eq_error.2 (Or.inr (promptLine_eq_error.2 h))
    · exact bind_eq_error.2 (Or.inl ⟨line, s', promptLine_eq_ok.2 hline,
        Primitive.ofResult_eq_error.2 ⟨cause, hcause, he, rfl⟩⟩)

theorem numberAnswer_eq_error {line : String} :
    numberAnswer line = .error cause ↔
      Number.parse (Text.trim line.toList) = none ∧ cause = .notNumber line := by
  unfold numberAnswer
  cases Number.parse (Text.trim line.toList) with
  | some x => simp
  | none => simp [eq_comm]

/-- Is the failure a fresh one, with a cause that the table has or that the console decides? -/
def EvalError.Explained (name : String) (args : List Value) (s : σ) (e : EvalError) : Prop :=
  ∃ cause : Cause, e = { cause } ∧ (cause.Arises name args ∨ cause.FromConsole name args s)

theorem Cause.Arises.explained (h : cause.Arises name args) :
    EvalError.Explained name args s { cause } :=
  ⟨cause, rfl, Or.inl h⟩

theorem Cause.FromConsole.explained (h : cause.FromConsole name args s) :
    EvalError.Explained name args s { cause } :=
  ⟨cause, rfl, Or.inr h⟩

/-- What the console decides against happens. -/
theorem Primitive.apply_of_fromConsole (h : cause.FromConsole name args s) :
    ∃ s', apply name args s = some (.error { cause }, s') := by
  cases h with
  | @notPrinted text failure hname hargs hprint =>
      subst hname hargs
      exact ⟨_, println_text_eq_error.2 ⟨failure, Prod.ext hprint rfl, rfl⟩⟩
  | @noLine failure s' hname hargs hprompt =>
      subst hargs
      have hfails : ∀ answer : String → Except Cause Value, (promptLine >>= fun line =>
          ofResult (answer line)) s = some (.error { cause := .console failure }, s') := fun _ =>
        prompt_eq_error.2 (Or.inl ⟨failure, hprompt, rfl⟩)
      rcases hname with rfl | rfl
      · exact ⟨s', (congrFun readNumber_nil s).trans (hfails numberAnswer)⟩
      · exact ⟨s', hfails fun line => .ok (.text line)⟩
  | @notNumber line s' hname hargs hprompt hparse =>
      subst hname hargs
      have hfails : (promptLine >>= fun line => ofResult (numberAnswer line)) s =
          some (.error { cause := .notNumber line }, s') :=
        prompt_eq_error.2 (Or.inr ⟨line, _, hprompt, numberAnswer_eq_error.2 ⟨hparse, rfl⟩, rfl⟩)
      exact ⟨s', (congrFun readNumber_nil s).trans hfails⟩

theorem Primitive.println_eq_error (h : println args s = some (.error e, s')) :
    e.Explained "println" args s := by
  by_cases hlen : args.length = 1
  · obtain ⟨v, rfl⟩ := List.length_eq_one_iff.1 hlen
    cases v with
    | text text =>
        obtain ⟨failure, hfailure, rfl⟩ := println_text_eq_error.1 h
        exact Cause.FromConsole.explained (.notPrinted rfl rfl (by rw [hfailure]))
    | _ =>
        cases h
        exact Cause.Arises.explained (.notText rfl rfl (by intro s hs; cases hs))
  · rw [println_wrongCount hlen] at h
    cases h
    exact (Cause.arises_wrongCount rfl hlen).explained

theorem Primitive.readNumber_eq_error (h : readNumber args s = some (.error e, s')) :
    e.Explained "read-num" args s := by
  cases args with
  | nil =>
      rw [readNumber_nil] at h
      rcases prompt_eq_error.1 h with ⟨failure, hprompt, rfl⟩ | ⟨line, cause, hline, hanswer, rfl⟩
      · exact Cause.FromConsole.explained (.noLine (Or.inl rfl) rfl hprompt)
      · obtain ⟨hparse, rfl⟩ := numberAnswer_eq_error.1 hanswer
        exact Cause.FromConsole.explained (.notNumber rfl rfl hline hparse)
  | cons v rest =>
      cases h
      exact (Cause.arises_wrongCount rfl (by simp)).explained

theorem Primitive.readText_eq_error (h : readText args s = some (.error e, s')) :
    e.Explained "read-str" args s := by
  cases args with
  | nil =>
      have hprompted : (promptLine >>= fun line => ofResult (.ok (.text line))) s =
          some (.error e, s') := h
      rcases prompt_eq_error.1 hprompted with ⟨failure, hprompt, rfl⟩ | ⟨line, cause, _, hanswer, _⟩
      · exact Cause.FromConsole.explained (.noLine (Or.inr rfl) rfl hprompt)
      · cases hanswer
  | cons v rest =>
      cases h
      exact (Cause.arises_wrongCount rfl (by simp)).explained

/-- An operation fails with what the table has, or with what the console decides. -/
theorem Primitive.apply_eq_error (h : apply name args s = some (.error e, s')) :
    e.Explained name args s := by
  -- The operations without effects fail with an entry of the table.
  have htable : ∀ {name : String} {result : Except Cause Value},
      (∀ cause, result = .error cause → cause.Arises name args) →
      ofResult result s = some (.error e, s') → e.Explained name args s := by
    intro name result hresult hfails
    obtain ⟨cause, hcause, rfl, -⟩ := ofResult_eq_error.1 hfails
    exact (hresult cause hcause).explained
  by_cases hname : name ∈ dedicatedNames
  · simp only [dedicatedNames, List.mem_cons, List.not_mem_nil, or_false] at hname
    rcases hname with rfl | rfl | rfl | rfl | rfl | rfl | rfl
    · exact println_eq_error h
    · exact readNumber_eq_error h
    · exact readText_eq_error h
    · exact htable (fun _ hfails => sequence_fails hfails) h
    · refine htable (fun cause hfails => ?_) h
      cases hjoin : joinText args with
      | ok text =>
          rw [hjoin] at hfails
          cases hfails
      | error cause' =>
          rw [hjoin] at hfails
          cases hfails
          obtain ⟨before, v, after, hargs, hv, hbefore, rfl⟩ := joinText_fails hjoin
          exact .notJoinable rfl hargs hv hbefore
    · exact htable (fun _ hfails => equal_fails hfails) h
    · exact htable (fun _ hfails => raise_fails hfails) h
  · rw [apply_of_not_dedicated hname] at h
    exact htable (fun _ hfails => arithmetic_fails hname hfails) h

/-- What an operation fails with fits its name. In particular, the table of operations has no name
that is not performed. -/
theorem Primitive.ofOperation_of_apply_eq_error (h : apply name args s = some (.error e, s')) :
    ∃ cause : Cause, e = { cause } ∧ cause.OfOperation name := by
  obtain ⟨cause, he, hcause⟩ := apply_eq_error h
  rcases hcause with hcause | hcause
  · exact ⟨cause, he, hcause.ofOperation⟩
  · exact ⟨cause, he, hcause.ofOperation⟩

/-- An operation ends, whatever its name, its arguments and the state of the console. It fails with
what the table has for the name and the arguments, with what the console decides in that state, and
with nothing else. All errors are fresh, and those of the table leave the console as it was. -/
theorem Primitive.apply_fails_iff_arises (name : String) (args : List Value) (s : σ) :
    ∃ result s', (apply name args : Action σ Value) s = some (result, s') ∧
      (∀ cause : Cause, result = .error { cause } ↔
        cause.Arises name args ∨ cause.FromConsole name args s) ∧
      ∀ e, result = .error e → e.trail = [] ∧ (e.cause.FromConsole name args s ∨ s' = s) := by
  obtain ⟨result, s', happly⟩ := ends_apply name args s
  have harises : ∀ cause : Cause, cause.Arises name args →
      result = .error { cause } ∧ s' = s := by
    intro cause hcause
    rw [apply_of_arises hcause] at happly
    cases happly
    exact ⟨rfl, rfl⟩
  have hfails : ∀ e, result = .error e → e.Explained name args s := by
    intro e he
    subst he
    exact apply_eq_error happly
  refine ⟨result, s', happly, fun cause => ⟨fun he => ?_, fun h => ?_⟩, fun e he => ?_⟩
  · obtain ⟨_, hcause, h⟩ := hfails _ he
    cases hcause
    exact h
  · rcases h with h | h
    · exact (harises cause h).1
    · obtain ⟨s₁, hs₁⟩ := apply_of_fromConsole h
      exact (Prod.mk.inj (Option.some.inj (happly.symm.trans hs₁))).1
  · obtain ⟨cause, rfl, h⟩ := hfails e he
    refine ⟨rfl, ?_⟩
    rcases h with h | h
    · exact Or.inr (harises cause h).2
    · exact Or.inl h

end Console

end ArrowLisp
