import ArrowLisp.Number.Numeral
import Mathlib.Data.List.TakeWhile
import Mathlib.Tactic.IntervalCases

/-!
# The grammar of numerals

A numeral is given by its parts: a sign, the digits before and after the point, and an exponent. The
parts carry the proof that they fit together, so a numeral always has a text and a value. The
recogniser takes such texts and no others, and the parser of typed numbers accepts every one of
them with the value of its parts.
-/

namespace ArrowLisp.Number

/-- `[eE][+-]?D+` -/
structure Exponent where
  letter : Char
  sign : Option Char
  digits : List Char
  letter_eq : letter = 'e' ∨ letter = 'E'
  sign_eq : ∀ c ∈ sign, c = '+' ∨ c = '-'
  digits_digit : ∀ c ∈ digits, c.isDigit = true
  digits_ne : digits ≠ []

/-- `-?(D+(.D*)?|.D+)([eE][+-]?D+)?`; there is a point if there is a fraction, even an empty one. -/
structure Numeral where
  negative : Bool
  whole : List Char
  fraction : Option (List Char)
  exponent : Option Exponent
  whole_digit : ∀ c ∈ whole, c.isDigit = true
  fraction_digit : ∀ c ∈ fraction.getD [], c.isDigit = true
  digits_ne : whole ≠ [] ∨ fraction.getD [] ≠ []

namespace Exponent

def text (x : Exponent) : List Char :=
  x.letter :: (x.sign.toList ++ x.digits)

def value (x : Exponent) : Int :=
  if x.sign = some '-' then -(digitsValue x.digits : Int) else digitsValue x.digits

end Exponent

namespace Numeral

/-- The text of an exponent that may be missing. -/
def exponentText (n : Numeral) : List Char :=
  (n.exponent.map Exponent.text).getD []

def mantissa (n : Numeral) : List Char :=
  n.whole ++ (n.fraction.map ('.' :: ·)).getD []

def unsignedText (n : Numeral) : List Char :=
  n.mantissa ++ n.exponentText

def text (n : Numeral) : List Char :=
  if n.negative then '-' :: n.unsignedText else n.unsignedText

/-- The decimal that the digits and the exponent write. -/
def decimal (n : Numeral) : Decimal :=
  .ofDigits n.whole (n.fraction.getD []) ((n.exponent.map Exponent.value).getD 0)

/-- The number written. -/
def value (n : Numeral) : Float :=
  n.decimal.toFloat n.negative

end Numeral

/-- Is the whole text a numeral? -/
def IsNumeral (cs : List Char) : Prop :=
  ∃ n : Numeral, n.text = cs

/-- The characters that numerals are made of. -/
def isNumeralChar (c : Char) : Bool :=
  c.isDigit || c = '.' || c = 'e' || c = 'E' || c = '+' || c = '-'

/-- A text that no numeral before it goes on into. -/
def EndsNumeral (rest : List Char) : Prop :=
  ∀ c ∈ rest.head?, isNumeralChar c = false

/-! ## Characters -/

def digitChars : List Char :=
  ['0', '1', '2', '3', '4', '5', '6', '7', '8', '9']

theorem mem_digitChars {c : Char} (h : c.isDigit = true) : c ∈ digitChars := by
  simp only [Char.isDigit, Bool.and_eq_true, decide_eq_true_eq] at h
  have hlo : 48 ≤ c.toNat := h.1
  have hhi : c.toNat ≤ 57 := h.2
  rw [← Char.ofNat_toNat c]
  interval_cases c.toNat <;> decide

/-- A row that is seen to have nothing of a class in it. -/
theorem not_of_all {p : Char → Bool} {cs : List Char} (h : cs.all (fun d => !p d) = true)
    {c : Char} (hc : c ∈ cs) : p c = false := by
  simpa using List.all_eq_true.1 h c hc

/-- A class of characters without those of numerals. -/
theorem not_numeralChar_of_class {p : Char → Bool}
    (hp : (digitChars ++ ['.', 'e', 'E', '+', '-']).all (fun d => !p d) = true) {c : Char}
    (h : p c = true) : isNumeralChar c = false := by
  cases hn : isNumeralChar c with
  | false => rfl
  | true =>
      have hmem : c ∈ digitChars ++ ['.', 'e', 'E', '+', '-'] := by
        simp only [isNumeralChar, Bool.or_eq_true, decide_eq_true_eq] at hn
        rcases hn with ((((hn | rfl) | rfl) | rfl) | rfl) | rfl
        · exact List.mem_append_left _ (mem_digitChars hn)
        all_goals decide
      rw [not_of_all hp hmem] at h
      cases h

/-! ## Runs of digits -/

/-- A run ends where the next character does not belong to it. -/
theorem span_append {α : Type} {p : α → Bool} {ds rest : List α} (hd : ∀ c ∈ ds, p c = true)
    (hr : ∀ c ∈ rest.head?, p c = false) :
    (ds ++ rest).takeWhile p = ds ∧ (ds ++ rest).dropWhile p = rest := by
  rw [List.takeWhile_append_of_pos hd, List.dropWhile_append_of_pos hd]
  cases rest with
  | nil => simp
  | cons c rest =>
      have hc : p c = false := hr c rfl
      simp [hc]

theorem takeWhile_digit (cs : List Char) : ∀ c ∈ cs.takeWhile Char.isDigit, c.isDigit = true :=
  fun _ h => List.mem_takeWhile_imp h

/-! ## The recogniser takes nothing but numerals -/

theorem takeSign_split (cs : List Char) :
    ∃ sign : Option Char, (∀ c ∈ sign, c = '+' ∨ c = '-') ∧ (takeSign cs).1 = sign.toList ∧
      cs = sign.toList ++ (takeSign cs).2 := by
  unfold takeSign
  split
  · exact ⟨some '+', by simp, rfl, rfl⟩
  · exact ⟨some '-', by simp, rfl, rfl⟩
  · exact ⟨none, by simp, rfl, rfl⟩

theorem takeExponent_split {cs lexeme rest : List Char}
    (h : takeExponent cs = some (lexeme, rest)) :
    ∃ x : Exponent, x.text = lexeme ∧ cs = lexeme ++ rest := by
  unfold takeExponent at h
  split at h
  · next c tail =>
    split at h
    · next hc =>
      obtain ⟨sign, hsign, hfst, hcs⟩ := takeSign_split tail
      have hsplit := List.takeWhile_append_dropWhile (p := Char.isDigit) (l := (takeSign tail).2)
      split at h
      · cases h
      · next d ds hds =>
        have hdigits : ∀ e ∈ d :: ds, e.isDigit = true := by
          rw [← hds]
          exact takeWhile_digit _
        simp only [Option.some.injEq, Prod.mk.injEq] at h
        refine ⟨⟨c, sign, d :: ds, hc, hsign, hdigits, by simp⟩, ?_, ?_⟩
        · rw [← h.1, hfst]
          rfl
        · rw [← h.1, ← h.2, hfst]
          rw [hds] at hsplit
          calc c :: tail = c :: (sign.toList ++ (takeSign tail).2) := by rw [← hcs]
            _ = c :: (sign.toList ++ (d :: ds ++ (takeSign tail).2.dropWhile Char.isDigit)) := by
              rw [hsplit]
            _ = _ := by simp
    · cases h
  · cases h

theorem takeMantissa_split {cs lexeme rest : List Char}
    (h : takeMantissa cs = some (lexeme, rest)) :
    ∃ n : Numeral, n.negative = false ∧ n.exponent = none ∧ n.mantissa = lexeme ∧
      cs = lexeme ++ rest := by
  have hcs := List.takeWhile_append_dropWhile (p := Char.isDigit) (l := cs)
  have hdigit := takeWhile_digit cs
  unfold takeMantissa at h
  split at h
  · next tail ht hd =>
    rw [ht, hd] at hcs
    have htail := List.takeWhile_append_dropWhile (p := Char.isDigit) (l := tail)
    have hdigit' := takeWhile_digit tail
    split at h
    · cases h
    · next d ds hds =>
      rw [hds] at htail hdigit'
      simp only [Option.some.injEq, Prod.mk.injEq] at h
      obtain ⟨rfl, rfl⟩ := h
      refine ⟨⟨false, [], some (d :: ds), none, by simp, hdigit', by simp⟩, rfl, rfl, rfl, ?_⟩
      rw [← hcs]
      simpa using htail.symm
  · cases h
  · next d ds tail ht hd =>
    rw [ht, hd] at hcs
    rw [ht] at hdigit
    have htail := List.takeWhile_append_dropWhile (p := Char.isDigit) (l := tail)
    simp only [Option.some.injEq, Prod.mk.injEq] at h
    obtain ⟨rfl, rfl⟩ := h
    refine ⟨⟨false, d :: ds, some (tail.takeWhile Char.isDigit), none, hdigit,
      takeWhile_digit tail, by simp⟩, rfl, rfl, rfl, ?_⟩
    calc cs = d :: ds ++ '.' :: tail := hcs.symm
      _ = d :: ds ++ '.' :: (tail.takeWhile Char.isDigit ++ tail.dropWhile Char.isDigit) := by
        rw [htail]
      _ = _ := by simp
  · next d ds ht _ =>
    rw [ht] at hcs hdigit
    simp only [Option.some.injEq, Prod.mk.injEq] at h
    obtain ⟨rfl, rfl⟩ := h
    exact ⟨⟨false, d :: ds, none, none, hdigit, by simp, by simp⟩, rfl, rfl,
      by simp [Numeral.mantissa], hcs.symm⟩

theorem takeUnsigned_split {cs lexeme rest : List Char}
    (h : takeUnsigned cs = some (lexeme, rest)) :
    ∃ n : Numeral, n.negative = false ∧ n.unsignedText = lexeme ∧ cs = lexeme ++ rest := by
  unfold takeUnsigned at h
  cases hm : takeMantissa cs with
  | none => simp [hm] at h
  | some p =>
      obtain ⟨mantissa, tail⟩ := p
      obtain ⟨n, hneg, hexp, hman, hcs⟩ := takeMantissa_split hm
      simp only [hm, bind, Option.bind] at h
      split at h
      · next exponent rest' he =>
        obtain ⟨x, hx, htail⟩ := takeExponent_split he
        simp only [pure, Option.some.injEq, Prod.mk.injEq] at h
        obtain ⟨rfl, rfl⟩ := h
        refine ⟨{ n with exponent := some x }, hneg, ?_, ?_⟩
        · rw [← hman, ← hx]
          rfl
        · rw [hcs, htail, List.append_assoc]
      · simp only [pure, Option.some.injEq, Prod.mk.injEq] at h
        obtain ⟨rfl, rfl⟩ := h
        refine ⟨n, hneg, ?_, hcs⟩
        simp [Numeral.unsignedText, Numeral.exponentText, hexp, hman]

/-- The recogniser takes a numeral off the front, and leaves the rest as it is. -/
theorem takeNumeral_split {cs lexeme rest : List Char}
    (h : takeNumeral cs = some (lexeme, rest)) :
    ∃ n : Numeral, n.text = lexeme ∧ cs = lexeme ++ rest := by
  unfold takeNumeral at h
  split at h
  · next tail =>
    obtain ⟨⟨lexeme', rest'⟩, hp, he⟩ := Option.map_eq_some_iff.1 h
    obtain ⟨n, -, htext, hcs⟩ := takeUnsigned_split hp
    obtain ⟨rfl, rfl⟩ := Prod.mk.inj he
    refine ⟨{ n with negative := true }, ?_, ?_⟩
    · rw [← htext]
      rfl
    · rw [hcs]
      rfl
  · obtain ⟨n, hneg, htext, hcs⟩ := takeUnsigned_split h
    refine ⟨n, ?_, hcs⟩
    rw [← htext, Numeral.text, hneg]
    rfl

theorem isNumeralChar_of_isDigit {c : Char} (h : c.isDigit = true) : isNumeralChar c = true := by
  simp [isNumeralChar, h]

theorem Exponent.numeralChar (x : Exponent) : ∀ c ∈ x.text, isNumeralChar c = true := by
  intro c hc
  simp only [Exponent.text, List.mem_cons, List.mem_append, Option.mem_toList] at hc
  rcases hc with rfl | hs | hd
  · rcases x.letter_eq with he | he <;> rw [he] <;> decide
  · rcases x.sign_eq c hs with rfl | rfl <;> decide
  · exact isNumeralChar_of_isDigit (x.digits_digit c hd)

theorem Numeral.numeralChar (n : Numeral) : ∀ c ∈ n.text, isNumeralChar c = true := by
  have hfrac : ∀ c ∈ (n.fraction.map ('.' :: ·)).getD [], isNumeralChar c = true := by
    cases hf : n.fraction with
    | none => simp
    | some fs =>
        intro c hc
        simp only [Option.map_some, Option.getD_some, List.mem_cons] at hc
        rcases hc with rfl | hc
        · decide
        · exact isNumeralChar_of_isDigit (n.fraction_digit c (by simpa [hf] using hc))
  have hexp : ∀ c ∈ n.exponentText, isNumeralChar c = true := by
    cases hx : n.exponent with
    | none => simp [Numeral.exponentText, hx]
    | some x => simpa [Numeral.exponentText, hx] using x.numeralChar
  have hunsigned : ∀ c ∈ n.unsignedText, isNumeralChar c = true := by
    intro c hc
    simp only [Numeral.unsignedText, Numeral.mantissa, List.mem_append] at hc
    rcases hc with (hw | hf) | he
    · exact isNumeralChar_of_isDigit (n.whole_digit c hw)
    · exact hfrac c hf
    · exact hexp c he
  intro c hc
  cases hn : n.negative with
  | true =>
      simp only [Numeral.text, hn, if_true, List.mem_cons] at hc
      rcases hc with rfl | hc
      · decide
      · exact hunsigned c hc
  | false => exact hunsigned c (by simpa [Numeral.text, hn] using hc)

/-! ## The recogniser takes as much as it can -/

theorem takeSign_append (x : Exponent) (rest : List Char) :
    takeSign (x.sign.toList ++ (x.digits ++ rest)) = (x.sign.toList, x.digits ++ rest) := by
  cases hs : x.sign with
  | some c =>
      rcases x.sign_eq c hs with rfl | rfl <;> rfl
  | none =>
      cases hd : x.digits with
      | nil => exact absurd hd x.digits_ne
      | cons d ds =>
          have hdigit : d.isDigit = true := x.digits_digit d (by rw [hd]; simp)
          have hp : d ≠ '+' := by rintro rfl; cases hdigit
          have hm : d ≠ '-' := by rintro rfl; cases hdigit
          simp [takeSign, hp, hm]

theorem Exponent.text_head (x : Exponent) (rest : List Char) :
    ∀ c ∈ (x.text ++ rest).head?, c.isDigit = false ∧ c ≠ '.' := by
  intro c hc
  obtain rfl : x.letter = c := by simpa [Exponent.text] using hc
  rcases x.letter_eq with he | he <;> rw [he] <;> decide

/-- Digits after an exponent are taken into it. -/
theorem takeExponent_text (x : Exponent) (rest : List Char) :
    takeExponent (x.text ++ rest) =
      some (x.text ++ rest.takeWhile Char.isDigit, rest.dropWhile Char.isDigit) := by
  have htext : x.text ++ rest = x.letter :: (x.sign.toList ++ (x.digits ++ rest)) := by
    simp [Exponent.text]
  rw [htext, takeExponent, if_pos x.letter_eq, takeSign_append]
  simp only [List.takeWhile_append_of_pos x.digits_digit,
    List.dropWhile_append_of_pos x.digits_digit]
  cases hd : x.digits with
  | nil => exact absurd hd x.digits_ne
  | cons d ds => simp [Exponent.text, hd]

/-- Digits after a mantissa are taken into it, and a point after its digits with more digits. -/
theorem takeMantissa_text (n : Numeral) (rest : List Char) :
    ∃ extra rest', rest = extra ++ rest' ∧
      takeMantissa (n.mantissa ++ rest) = some (n.mantissa ++ extra, rest') ∧
      ∀ c ∈ extra.head?, c.isDigit = true ∨ c = '.' := by
  have hrest := List.takeWhile_append_dropWhile (p := Char.isDigit) (l := rest)
  have hdigits : ∀ c ∈ (rest.takeWhile Char.isDigit).head?, c.isDigit = true ∨ c = '.' :=
    fun c hc => Or.inl (takeWhile_digit rest c (List.mem_of_mem_head? hc))
  cases hf : n.fraction with
  | none =>
      have hm : n.mantissa = n.whole := by simp [Numeral.mantissa, hf]
      obtain ⟨d, ds, hw⟩ : ∃ d ds, n.whole = d :: ds :=
        List.exists_cons_of_ne_nil (by simpa [hf] using n.digits_ne)
      rw [hm, takeMantissa, List.takeWhile_append_of_pos n.whole_digit,
        List.dropWhile_append_of_pos n.whole_digit, hw, List.cons_append]
      split
      · next h _ => cases h
      · next h _ => cases h
      · next d' ds' tail h hpoint =>
        have htail := List.takeWhile_append_dropWhile (p := Char.isDigit) (l := tail)
        refine ⟨rest.takeWhile Char.isDigit ++ '.' :: tail.takeWhile Char.isDigit,
          tail.dropWhile Char.isDigit, ?_, by simp [← h], fun c hc => ?_⟩
        · rw [List.append_assoc, List.cons_append, htail, ← hpoint, hrest]
        · cases hds : rest.takeWhile Char.isDigit with
          | nil =>
              rw [hds] at hc
              exact Or.inr (Option.some.inj hc).symm
          | cons e es =>
              rw [hds] at hc hdigits
              exact hdigits c hc
      · next d' ds' h _ => exact ⟨_, _, hrest.symm, by simp [← h], hdigits⟩
  | some fs =>
      have hfs : ∀ c ∈ fs, c.isDigit = true := by simpa [hf] using n.fraction_digit
      have htext : n.mantissa ++ rest = n.whole ++ '.' :: (fs ++ rest) := by
        simp [Numeral.mantissa, hf]
      have hpoint : ∀ c ∈ ('.' :: (fs ++ rest)).head?, c.isDigit = false := by simp
      have hspan := span_append n.whole_digit hpoint
      refine ⟨_, _, hrest.symm, ?_, hdigits⟩
      rw [htext, takeMantissa, hspan.1, hspan.2]
      cases hw : n.whole with
      | nil =>
          obtain ⟨d, ds, rfl⟩ : ∃ d ds, fs = d :: ds :=
            List.exists_cons_of_ne_nil (by simpa [hf, hw] using n.digits_ne)
          simp only [List.takeWhile_append_of_pos hfs, List.dropWhile_append_of_pos hfs]
          simp [Numeral.mantissa, hf, hw]
      | cons d ds =>
          simp only [List.takeWhile_append_of_pos hfs, List.dropWhile_append_of_pos hfs]
          simp [Numeral.mantissa, hf, hw]

/-- The letter of an exponent ends the mantissa before it. -/
theorem takeMantissa_exponent (n : Numeral) (x : Exponent) (rest : List Char) :
    takeMantissa (n.mantissa ++ (x.text ++ rest)) = some (n.mantissa, x.text ++ rest) := by
  obtain ⟨extra, rest', hrest, htake, hhead⟩ := takeMantissa_text n (x.text ++ rest)
  cases extra with
  | nil => rw [htake, List.append_nil, hrest, List.nil_append]
  | cons c extra =>
      have hc := x.text_head rest c (by rw [hrest]; rfl)
      rcases hhead c rfl with hdigit | hpoint
      · rw [hc.1] at hdigit
        cases hdigit
      · exact absurd hpoint hc.2

theorem takeUnsigned_text (n : Numeral) (rest : List Char) :
    ∃ extra rest', rest = extra ++ rest' ∧
      takeUnsigned (n.unsignedText ++ rest) = some (n.unsignedText ++ extra, rest') := by
  cases hx : n.exponent with
  | none =>
      have htext : n.unsignedText = n.mantissa := by
        simp [Numeral.unsignedText, Numeral.exponentText, hx]
      obtain ⟨extra, mid, hrest, hm, -⟩ := takeMantissa_text n rest
      rw [htext, takeUnsigned, hm]
      cases he : takeExponent mid with
      | none => exact ⟨extra, mid, hrest, by simp [he]⟩
      | some p =>
          obtain ⟨x, -, hmid⟩ := takeExponent_split he
          exact ⟨extra ++ p.1, p.2, by rw [hrest, hmid, List.append_assoc], by simp [he]⟩
  | some x =>
      have htext : n.unsignedText = n.mantissa ++ x.text := by
        simp [Numeral.unsignedText, Numeral.exponentText, hx]
      refine ⟨rest.takeWhile Char.isDigit, rest.dropWhile Char.isDigit, by simp, ?_⟩
      rw [htext, List.append_assoc, takeUnsigned, takeMantissa_exponent]
      simp [takeExponent_text]

theorem unsignedText_head (n : Numeral) :
    ∃ c tail, n.unsignedText = c :: tail ∧ (c.isDigit = true ∨ c = '.') := by
  cases hw : n.whole with
  | cons d ds =>
      refine ⟨d, ds ++ (n.fraction.map ('.' :: ·)).getD [] ++ n.exponentText, ?_, Or.inl ?_⟩
      · simp [Numeral.unsignedText, Numeral.mantissa, hw]
      · exact n.whole_digit d (by rw [hw]; simp)
  | nil =>
      cases hf : n.fraction with
      | none => simpa [hw, hf] using n.digits_ne
      | some fs =>
          exact ⟨'.', fs ++ n.exponentText,
            by simp [Numeral.unsignedText, Numeral.mantissa, hw, hf], Or.inr rfl⟩

theorem unsignedText_head_ne (n : Numeral) {c : Char} {tail : List Char}
    (h : n.unsignedText = c :: tail) : c ≠ '-' ∧ c ≠ '+' := by
  obtain ⟨d, ds, hd, hcase⟩ := unsignedText_head n
  rw [h] at hd
  obtain ⟨rfl, -⟩ := List.cons.inj hd
  rcases hcase with hdigit | rfl
  · constructor <;> rintro rfl <;> cases hdigit
  · decide

/-- The sign of a numeral is taken off, and then the rest of it. -/
theorem takeNumeral_text (n : Numeral) (rest : List Char) :
    takeNumeral (n.text ++ rest) = (takeUnsigned (n.unsignedText ++ rest)).map fun p =>
      (if n.negative then '-' :: p.1 else p.1, p.2) := by
  cases hn : n.negative with
  | true => simp only [Numeral.text, hn, if_true, List.cons_append, takeNumeral]
  | false =>
      obtain ⟨c, tail, hc, -⟩ := unsignedText_head n
      have hne := (unsignedText_head_ne n hc).1
      have htext : n.text = n.unsignedText := by simp [Numeral.text, hn]
      rw [htext, hc, List.cons_append, takeNumeral]
      · simp
      · rintro cs hcons
        exact hne (List.cons.inj hcons).1

/-- What is taken off a text that starts with a numeral starts with that numeral too. -/
theorem takeNumeral_extends (n : Numeral) (rest : List Char) :
    ∃ extra rest', rest = extra ++ rest' ∧
      takeNumeral (n.text ++ rest) = some (n.text ++ extra, rest') := by
  obtain ⟨extra, rest', hrest, htake⟩ := takeUnsigned_text n rest
  refine ⟨extra, rest', hrest, ?_⟩
  rw [takeNumeral_text, htake, Numeral.text]
  cases n.negative <;> rfl

/-- A text that starts with a numeral never is without one, whatever follows. -/
theorem takeNumeral_text_ne_none (n : Numeral) (rest : List Char) :
    takeNumeral (n.text ++ rest) ≠ none := by
  obtain ⟨extra, rest', -, htake⟩ := takeNumeral_extends n rest
  simp [htake]

/-- The recogniser takes a whole numeral when the text after it is not part of one. -/
theorem takeNumeral_append (n : Numeral) {rest : List Char} (hr : EndsNumeral rest) :
    takeNumeral (n.text ++ rest) = some (n.text, rest) := by
  obtain ⟨extra, rest', hrest, htake⟩ := takeNumeral_extends n rest
  obtain ⟨m, hm, -⟩ := takeNumeral_split htake
  cases extra with
  | nil => rw [htake, List.append_nil, hrest, List.nil_append]
  | cons c extra =>
      have hc := m.numeralChar c (by rw [hm]; simp)
      rw [hr c (by rw [hrest]; rfl)] at hc
      cases hc

theorem isNumeral_iff (cs : List Char) : IsNumeral cs ↔ takeNumeral cs = some (cs, []) := by
  constructor
  · rintro ⟨n, rfl⟩
    have hend : EndsNumeral [] := by simp [EndsNumeral]
    simpa using takeNumeral_append n hend
  · intro h
    obtain ⟨n, hn, -⟩ := takeNumeral_split h
    exact ⟨n, hn⟩

instance (cs : List Char) : Decidable (IsNumeral cs) :=
  decidable_of_iff _ (isNumeral_iff cs).symm

/-! ## Texts without a numeral -/

/-- No numeral starts with anything but a digit or a point, after a sign. -/
theorem takeUnsigned_none {cs : List Char} (h : ∀ c ∈ cs.head?, c.isDigit = false ∧ c ≠ '.') :
    takeUnsigned cs = none := by
  have hm : takeMantissa cs = none := by
    cases cs with
    | nil => rfl
    | cons c tail =>
        obtain ⟨hd, hp⟩ := h c rfl
        simp [takeMantissa, hd, hp]
  simp [takeUnsigned, hm]

theorem takeNumeral_none {cs : List Char} (h : ∀ c ∈ cs.head?, c.isDigit = false ∧ c ≠ '.')
    (hm : ∀ tail, cs = '-' :: tail → ∀ c ∈ tail.head?, c.isDigit = false ∧ c ≠ '.') :
    takeNumeral cs = none := by
  unfold takeNumeral
  split
  · next tail => rw [takeUnsigned_none (hm tail rfl), Option.map_none]
  · exact takeUnsigned_none h

/-- A digit always starts a numeral. -/
theorem takeUnsigned_digit {c : Char} (h : c.isDigit = true) (tail : List Char) :
    takeUnsigned (c :: tail) ≠ none := by
  have hm : takeMantissa (c :: tail) ≠ none := by
    simp only [takeMantissa, List.takeWhile_cons, h, if_true]
    split <;> simp_all
  obtain ⟨p, hp⟩ := Option.ne_none_iff_exists'.1 hm
  simp only [takeUnsigned, hp, Option.bind_eq_bind, Option.bind_some]
  split <;> simp

/-- What is no part of a numeral makes no numeral of the text before it. -/
theorem takeNumeral_none_append {cs more : List Char} (h : takeNumeral cs = none)
    (hm : EndsNumeral more) : takeNumeral (cs ++ more) = none := by
  cases hn : takeNumeral (cs ++ more) with
  | none => rfl
  | some p =>
      obtain ⟨lexeme, rest⟩ := p
      obtain ⟨n, rfl, hsplit⟩ := takeNumeral_split hn
      rcases List.append_eq_append_iff.1 hsplit with ⟨q, hq, hmore⟩ | ⟨q, rfl, -⟩
      · -- The numeral would reach into what follows, so it ends where that starts.
        cases q with
        | nil =>
            rw [List.append_nil] at hq
            have htext := takeNumeral_text_ne_none n []
            rw [List.append_nil, hq] at htext
            exact absurd h htext
        | cons c q =>
            have hc := n.numeralChar c (by rw [hq]; simp)
            rw [hm c (by rw [hmore]; rfl)] at hc
            cases hc
      · exact absurd h (takeNumeral_text_ne_none n q)

/-! ## The parser of typed numbers accepts numerals -/

theorem parseExponent_text (x : Exponent) : parseExponent x.text = some x.value := by
  have hsign := takeSign_append x []
  rw [List.append_nil] at hsign
  have hall : x.digits.all Char.isDigit = true := by simpa using x.digits_digit
  have hne : x.digits.isEmpty = false := by simpa using x.digits_ne
  have hhead : (x.sign.toList ++ x.digits).head? = some '-' ↔ x.sign = some '-' := by
    cases hs : x.sign with
    | some c => simp
    | none =>
        have hdigit : '-' ∉ x.digits := fun hm => by cases x.digits_digit _ hm
        simp only [Option.toList_none, List.nil_append, reduceCtorEq, iff_false]
        exact fun h => hdigit (List.mem_of_mem_head? h)
  simp only [Exponent.text, parseExponent, if_pos x.letter_eq, hsign, hne, hall, hhead,
    Exponent.value]
  simp

theorem parseExponent_exponentText (n : Numeral) :
    parseExponent n.exponentText = some ((n.exponent.map Exponent.value).getD 0) := by
  cases hx : n.exponent with
  | none => simp [Numeral.exponentText, hx, parseExponent]
  | some x => simp [Numeral.exponentText, hx, parseExponent_text]

theorem exponentText_head (n : Numeral) :
    ∀ c ∈ n.exponentText.head?, c.isDigit = false ∧ c ≠ '.' := by
  cases hx : n.exponent with
  | none => simp [Numeral.exponentText, hx]
  | some x => simpa [Numeral.exponentText, hx] using x.text_head []

theorem parseUnsigned_text (n : Numeral) : parseUnsigned n.unsignedText = some n.decimal := by
  have hexp := parseExponent_exponentText n
  have hhead := exponentText_head n
  cases hf : n.fraction with
  | none =>
      have hspan := span_append n.whole_digit (fun c hc => (hhead c hc).1)
      have htext : n.unsignedText = n.whole ++ n.exponentText := by
        simp [Numeral.unsignedText, Numeral.mantissa, hf]
      have hne : n.whole ≠ [] := by simpa [hf] using n.digits_ne
      rw [htext, parseUnsigned, hspan.1, hspan.2]
      split
      · next rest fraction hmatch =>
        split at hmatch
        · next tail htail => exact absurd rfl (hhead '.' (by rw [htail]; rfl)).2
        · obtain ⟨rfl, rfl⟩ := Prod.mk.inj hmatch
          simp [hne, hexp, Numeral.decimal, hf]
  | some fs =>
      have hfs : ∀ c ∈ fs, c.isDigit = true := by simpa [hf] using n.fraction_digit
      have htext : n.unsignedText = n.whole ++ '.' :: (fs ++ n.exponentText) := by
        simp [Numeral.unsignedText, Numeral.mantissa, hf]
      have hpoint : ∀ c ∈ ('.' :: (fs ++ n.exponentText)).head?, c.isDigit = false := by simp
      have hspan := span_append n.whole_digit hpoint
      have hspan' := span_append hfs (fun c hc => (hhead c hc).1)
      have hne : (n.whole.isEmpty && fs.isEmpty) = false := by
        have := n.digits_ne
        simp only [hf, Option.getD_some] at this
        simp only [Bool.and_eq_false_iff, List.isEmpty_eq_false_iff]
        exact this
      rw [htext, parseUnsigned, hspan.1, hspan.2]
      simp only [hspan'.1, hspan'.2, hne, hexp, Numeral.decimal, hf]
      simp

/-- Every numeral writes a number. -/
theorem parse_text (n : Numeral) : parse n.text = some n.value := by
  have hu := parseUnsigned_text n
  cases hn : n.negative with
  | true => simp [Numeral.text, hn, parse, parseMagnitude, hu, Numeral.value]
  | false =>
      have htext : n.text = n.unsignedText := by simp [Numeral.text, hn]
      obtain ⟨c, tail, hc, -⟩ := unsignedText_head n
      have hne := unsignedText_head_ne n hc
      have hparse : parse n.unsignedText = parseMagnitude false n.unsignedText := by
        rw [hc]
        unfold parse
        split
        · next h => exact absurd (List.cons.inj h).1 hne.2
        · next h => exact absurd (List.cons.inj h).1 hne.1
        · rfl
      rw [htext, hparse, parseMagnitude, hu, Numeral.value, hn]

end ArrowLisp.Number
