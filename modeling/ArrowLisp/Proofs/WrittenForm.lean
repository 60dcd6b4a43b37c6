import ArrowLisp.Expr.OfDatum
import Mathlib.Data.List.Nodup

/-!
# The written form of an expression

Every expression is written by one datum. An expression is *valid* if none of its names and
parameters is a reserved word and none of its functions repeats a parameter. A datum is turned into
an expression exactly if it is the written form of a valid one, and then that expression is what it
gives. The reserved words keep the three forms of lists apart: the callee of a valid call is not
written `if`, and no argument of it is written `=>`.
-/

namespace ArrowLisp

namespace Expr

mutual

/-- The datum that writes an expression. -/
def toDatum : Expr → Datum
  | .number x => .number x
  | .text s => .text s
  | .name x => .symbol x
  | .branch c t e => .list [.symbol "if", toDatum c, toDatum t, toDatum e]
  | .function params body => .list [.list (params.map .symbol), .symbol "=>", toDatum body]
  | .call callee args => .list (toDatum callee :: toData args)

def toData : List Expr → List Datum
  | [] => []
  | e :: rest => toDatum e :: toData rest

end

mutual

/-- No name and no parameter is a reserved word, and no function repeats a parameter. -/
def Valid : Expr → Prop
  | .number _ => True
  | .text _ => True
  | .name x => x ∉ reservedNames
  | .branch c t e => Valid c ∧ Valid t ∧ Valid e
  | .function params body => (∀ p ∈ params, p ∉ reservedNames) ∧ params.Nodup ∧ Valid body
  | .call callee args => Valid callee ∧ AllValid args

def AllValid : List Expr → Prop
  | [] => True
  | e :: rest => Valid e ∧ AllValid rest

end

mutual

instance decidableValid : (e : Expr) → Decidable e.Valid
  | .number _ => isTrue trivial
  | .text _ => isTrue trivial
  | .name x => inferInstanceAs (Decidable (x ∉ reservedNames))
  | .branch c t e =>
    have := decidableValid c
    have := decidableValid t
    have := decidableValid e
    inferInstanceAs (Decidable (Valid c ∧ Valid t ∧ Valid e))
  | .function params body =>
    have := decidableValid body
    inferInstanceAs
      (Decidable ((∀ p ∈ params, p ∉ reservedNames) ∧ params.Nodup ∧ Valid body))
  | .call callee args =>
    have := decidableValid callee
    have := decidableAllValid args
    inferInstanceAs (Decidable (Valid callee ∧ AllValid args))

instance decidableAllValid : (es : List Expr) → Decidable (AllValid es)
  | [] => isTrue trivial
  | e :: rest =>
    have := decidableValid e
    have := decidableAllValid rest
    inferInstanceAs (Decidable (Valid e ∧ AllValid rest))

end

end Expr

/-! ## Names and parameters -/

theorem except_bind_eq_ok {ε α β : Type} {x : Except ε α} {f : α → Except ε β} {b : β} :
    (x >>= f) = .ok b ↔ ∃ a, x = .ok a ∧ f a = .ok b := by
  cases x <;> simp [bind, Except.bind]

theorem except_pure_eq_ok {ε α : Type} {a b : α} : (pure a : Except ε α) = .ok b ↔ a = b := by
  simp [pure, Except.pure]

theorem validName_eq_ok {x y : String} : validName x = .ok y ↔ x ∉ reservedNames ∧ y = x := by
  by_cases hx : x ∈ reservedNames
  · simp [validName, isValidName, hx]
  · simp [validName, isValidName, hx, eq_comm]

/-- A parameter is taken off its own symbol, if it is free to be used. -/
theorem paramNames_cons_eq_ok {before names : List String} {x : String} {rest : List Datum} :
    paramNames before (.symbol x :: rest) = .ok names ↔
      x ∉ reservedNames ∧ x ∉ before ∧
        ∃ more, paramNames (before ++ [x]) rest = .ok more ∧ x :: more = names := by
  rw [paramNames, except_bind_eq_ok]
  by_cases hx : x ∈ before
  · simp [validName_eq_ok, hx, throw, throwThe, MonadExceptOf.throw, bind, Except.bind]
  · simp [validName_eq_ok, hx, except_bind_eq_ok, pure, Except.pure]

theorem paramNames_eq_ok {before names : List String} {items : List Datum} :
    paramNames before items = .ok names ↔
      items = names.map .symbol ∧ (∀ p ∈ names, p ∉ reservedNames) ∧ names.Nodup ∧
        ∀ p ∈ names, p ∉ before := by
  induction before, items using paramNames.induct generalizing names with
  | case1 before => cases names <;> simp [paramNames]
  | case2 before x rest ih =>
      rw [paramNames_cons_eq_ok]
      cases names with
      | nil => simp
      | cons p names =>
          simp only [ih x]
          grind
  | case3 before d tail hd =>
      cases names with
      | nil => simp [paramNames]
      | cons p names =>
          have hne : d ≠ .symbol p := fun h => hd p h
          simp [paramNames, hne]

/-- Parameters are taken off the list of their symbols. -/
theorem params_eq_ok {d : Datum} {names : List String} :
    params d = .ok names ↔
      d = .list (names.map .symbol) ∧ (∀ p ∈ names, p ∉ reservedNames) ∧ names.Nodup := by
  cases d with
  | list items => simp [params, paramNames_eq_ok]
  | _ => simp [params]

/-! ## From the written form back -/

namespace Expr

theorem eq_name_of_toDatum {e : Expr} {x : String} (h : e.toDatum = .symbol x) : e = .name x := by
  cases e <;> simp_all [toDatum]

/-- No valid expression is written as a reserved word. -/
theorem toDatum_ne_reserved {e : Expr} (h : e.Valid) {word : String}
    (hword : word ∈ reservedNames) : e.toDatum ≠ .symbol word := by
  intro he
  obtain rfl := eq_name_of_toDatum he
  exact h hword

theorem toData_ne_arrow {args : List Expr} (h : AllValid args) (body : Datum) :
    toData args ≠ [.symbol "=>", body] := by
  cases args with
  | nil => simp [toData]
  | cons e rest =>
      intro he
      exact toDatum_ne_reserved h.1 (by decide) (List.cons.inj he).1

/-- A list that starts with no `if` and has no arrow in its middle is a call. -/
theorem ofDatum_call {head : Datum} {args : List Datum} (hif : head ≠ .symbol "if")
    (harrow : ∀ body, args ≠ [.symbol "=>", body]) :
    ofDatum (.list (head :: args)) = (do
      let callee ← ofDatum head
      let es ← ofData args
      return .call callee es) := by
  rw [ofDatum]
  · exact fun c t e h => absurd h hif
  · exact hif
  · exact harrow

mutual

/-- The written form of a valid expression gives that expression. -/
theorem ofDatum_toDatum : ∀ e : Expr, e.Valid → ofDatum e.toDatum = .ok e
  | .number _, _ => rfl
  | .text _, _ => rfl
  | .name x, h => by
      have hx : validName x = .ok x := validName_eq_ok.2 ⟨h, rfl⟩
      simp only [toDatum, ofDatum, hx]
      rfl
  | .branch c t e, ⟨hc, ht, he⟩ => by
      simp only [toDatum, ofDatum, ofDatum_toDatum c hc, ofDatum_toDatum t ht,
        ofDatum_toDatum e he]
      rfl
  | .function ps body, ⟨hnames, hnodup, hbody⟩ => by
      have hps : params (.list (ps.map .symbol)) = .ok ps := params_eq_ok.2 ⟨rfl, hnames, hnodup⟩
      simp only [toDatum, ofDatum, hps, ofDatum_toDatum body hbody]
      rfl
  | .call callee args, ⟨hcallee, hargs⟩ => by
      have hif : callee.toDatum ≠ .symbol "if" := toDatum_ne_reserved hcallee (by decide)
      rw [toDatum, ofDatum_call hif (toData_ne_arrow hargs), ofDatum_toDatum callee hcallee,
        ofData_toData args hargs]
      rfl

theorem ofData_toData : ∀ es : List Expr, AllValid es → ofData (toData es) = .ok es
  | [], _ => rfl
  | e :: es, ⟨he, hes⟩ => by
      simp only [toData, ofData, ofDatum_toDatum e he, ofData_toData es hes]
      rfl

end

/-! ## Only written forms are taken -/

/-- What a datum gives is valid and is written by that datum. The induction goes along the tests
that are made on the datum, in their order. -/
theorem ofDatum_written :
    (∀ d e, ofDatum d = .ok e → e.Valid ∧ d = e.toDatum) ∧
      ∀ ds es, ofData ds = .ok es → AllValid es ∧ ds = toData es := by
  apply ofDatum.mutual_induct
    (fun d => ∀ e, ofDatum d = .ok e → e.Valid ∧ d = e.toDatum)
    (fun ds => ∀ es, ofData ds = .ok es → AllValid es ∧ ds = toData es)
  case case1 | case2 =>
    rintro _ _ ⟨⟩
    exact ⟨trivial, rfl⟩
  case case3 =>
    -- A symbol.
    intro s e h
    simp only [ofDatum, except_bind_eq_ok, except_pure_eq_ok, validName_eq_ok] at h
    obtain ⟨_, ⟨hs, rfl⟩, rfl⟩ := h
    exact ⟨hs, rfl⟩
  case case4 =>
    -- The empty list.
    intro e h
    simp [ofDatum] at h
  case case5 =>
    -- A branch with its three parts, and then one with any other number of parts.
    intro c t e ihc iht ihe r h
    simp only [ofDatum, except_bind_eq_ok, except_pure_eq_ok] at h
    obtain ⟨c', hc, t', ht, e', he, rfl⟩ := h
    obtain ⟨hcv, rfl⟩ := ihc c' hc
    obtain ⟨htv, rfl⟩ := iht t' ht
    obtain ⟨hev, rfl⟩ := ihe e' he
    exact ⟨⟨hcv, htv, hev⟩, rfl⟩
  case case6 =>
    intro rest hrest e h
    rw [ofDatum] at h
    · cases h
    · exact hrest
  case case7 =>
    -- Three items with an arrow in the middle.
    intro ps body hps ih e h
    rw [ofDatum] at h
    · simp only [except_bind_eq_ok, except_pure_eq_ok, params_eq_ok] at h
      obtain ⟨names, ⟨rfl, hnames, hnodup⟩, body', hbody, rfl⟩ := h
      obtain ⟨hv, rfl⟩ := ih body' hbody
      exact ⟨⟨hnames, hnodup, hv⟩, rfl⟩
    · exact hps
  case case8 =>
    -- What is left is a call; its head is no `if`, so its callee is valid.
    intro head args _ hif harrow ihhead ihargs e h
    rw [ofDatum_call hif harrow] at h
    simp only [except_bind_eq_ok, except_pure_eq_ok] at h
    obtain ⟨callee, hcallee, es, hes, rfl⟩ := h
    obtain ⟨hcv, rfl⟩ := ihhead callee hcallee
    obtain ⟨hev, rfl⟩ := ihargs es hes
    exact ⟨⟨hcv, hev⟩, rfl⟩
  case case9 =>
    -- Rows of data.
    rintro _ ⟨⟩
    exact ⟨trivial, rfl⟩
  case case10 =>
    intro d rest ihd ihrest es h
    simp only [ofData, except_bind_eq_ok, except_pure_eq_ok] at h
    obtain ⟨e, he, more, hmore, rfl⟩ := h
    obtain ⟨hev, rfl⟩ := ihd e he
    obtain ⟨hmv, rfl⟩ := ihrest more hmore
    exact ⟨⟨hev, hmv⟩, rfl⟩

theorem ofDatum_eq_ok_iff {d : Datum} {e : Expr} :
    ofDatum d = .ok e ↔ e.Valid ∧ d = e.toDatum := by
  constructor
  · exact ofDatum_written.1 d e
  · rintro ⟨hvalid, rfl⟩
    exact ofDatum_toDatum e hvalid

/-! ## Printing -/

theorem renderItems_symbols (names : List String) :
    Datum.renderItems (names.map .symbol) = " ".intercalate names := by
  induction names with
  | nil => rfl
  | cons x names ih =>
      cases names with
      | nil => simp [Datum.renderItems, Datum.render]
      | cons y names =>
          rw [List.map_cons, List.map_cons, Datum.renderItems, ← List.map_cons, ih,
            String.intercalate_cons_cons, Datum.render]
          simp

mutual

/-- An expression is printed as the datum that writes it. -/
theorem render_toDatum : ∀ e : Expr, e.toDatum.render = e.render
  | .number _ => rfl
  | .text _ => rfl
  | .name _ => rfl
  | .branch c t e => by
      have hopen : "(if " = "(" ++ ("if" ++ " ") := rfl
      simp only [toDatum, Datum.render, Datum.renderItems, render, render_toDatum c,
        render_toDatum t, render_toDatum e, hopen, String.append_assoc]
  | .function ps body => by
      have hopen : "((" = "(" ++ "(" := rfl
      have harrow : ") => " = ")" ++ (" " ++ ("=>" ++ " ")) := rfl
      simp only [toDatum, Datum.render, Datum.renderItems, render, render_toDatum body,
        renderItems_symbols, hopen, harrow, String.append_assoc]
  | .call callee args => by
      simp only [toDatum, Datum.render, render, renderItems_cons_toData callee.toDatum args,
        render_toDatum callee, String.append_assoc]

theorem renderItems_cons_toData (d : Datum) : ∀ args : List Expr,
    Datum.renderItems (d :: toData args) = d.render ++ renderArgs args
  | [] => by simp [toData, Datum.renderItems, renderArgs]
  | e :: args => by
      rw [toData, Datum.renderItems, renderItems_cons_toData e.toDatum args, render_toDatum e,
        renderArgs]
      · simp only [String.append_assoc]
      · simp

end

/-- Turning data into expressions inverts writing. A datum gives an expression exactly if that
expression is valid and written by it, and both are printed as the same text. All other data are
refused, and no two data give one expression. -/
theorem ofDatum_inverts_toDatum (d : Datum) (e : Expr) :
    (ofDatum d = .ok e ↔ e.Valid ∧ d = e.toDatum) ∧
    (ofDatum d = .ok e → d.render = e.render) ∧
    ((∀ e' : Expr, e'.Valid → d ≠ e'.toDatum) → ∃ error, ofDatum d = .error error) ∧
    ∀ d', ofDatum d = .ok e → ofDatum d' = .ok e → d = d' := by
  refine ⟨ofDatum_eq_ok_iff, ?_, ?_, ?_⟩
  · intro h
    rw [(ofDatum_eq_ok_iff.1 h).2, render_toDatum]
  · intro h
    cases hd : ofDatum d with
    | error error => exact ⟨error, rfl⟩
    | ok e' =>
        obtain ⟨hvalid, hwritten⟩ := ofDatum_eq_ok_iff.1 hd
        exact absurd hwritten (h e' hvalid)
  · intro d' h h'
    rw [(ofDatum_eq_ok_iff.1 h).2, (ofDatum_eq_ok_iff.1 h').2]

/-- The datum `((self n) => (if (<= n 0) "done" (self self (- n 1))))`. -/
def countdownDatum : Datum :=
  .list [.list [.symbol "self", .symbol "n"], .symbol "=>",
    .list [.symbol "if", .list [.symbol "<=", .symbol "n", .number 0], .text "done",
      .list [.symbol "self", .symbol "self", .list [.symbol "-", .symbol "n", .number 1]]]]

/-- The function that it writes. -/
def countdown : Expr :=
  .function ["self", "n"]
    (.branch (.call (.name "<=") [.name "n", .number 0]) (.text "done")
      (.call (.name "self") [.name "self", .call (.name "-") [.name "n", .number 1]]))

/-- A datum with all three forms of lists gives the function it writes and is printed like it; the
empty list gives nothing. -/
theorem countdown_written :
    ofDatum countdownDatum = .ok countdown ∧ countdownDatum.render = countdown.render ∧
      (∀ d', ofDatum d' = .ok countdown → countdownDatum = d') ∧
      ∃ error, ofDatum (.list []) = .error error := by
  obtain ⟨hiff, hrender, -, hunique⟩ := ofDatum_inverts_toDatum countdownDatum countdown
  have hok : ofDatum countdownDatum = .ok countdown := hiff.2 ⟨by decide, rfl⟩
  refine ⟨hok, hrender hok, fun d' => hunique d' hok, ?_⟩
  refine (ofDatum_inverts_toDatum (.list []) countdown).2.2.1 fun e' _ h => ?_
  cases e' <;> simp [toDatum] at h

end Expr

end ArrowLisp
