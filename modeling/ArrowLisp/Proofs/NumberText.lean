import ArrowLisp.Number.Layout
import ArrowLisp.Proofs.FloatBits
import ArrowLisp.Proofs.Numerals

/-!
# Printed numbers read back

The plain text of a finite number is a numeral, and its value is the number itself. The digits are
found by a search that checks each candidate by reading it back. Should the search end without a
hit, the exact expansion is printed, and rounding it gives the same magnitude again.
-/

namespace ArrowLisp.Number

/-! ## Magnitudes in powers of two and ten -/

theorem binade_eq (b : Nat) : binade b = max 1 (b / 2 ^ 52) := rfl

theorem significand_eq (b : Nat) :
    significand b = if b / 2 ^ 52 = 0 then b else b % 2 ^ 52 + 2 ^ 52 :=
  rfl

theorem units_eq (b : Nat) : units b = significand b * 2 ^ (binade b - 1) := rfl

-- The exponents of the next three are variables: such powers are too large to write out.

theorem unitInverse_eq {k : Nat} (h : k = 1074) : unitInverse = 2 ^ k := by
  unfold unitInverse
  rw [← h, Nat.pow_eq]

theorem unitInverse_pos : 0 < unitInverse := by
  obtain ⟨k, hk⟩ : ∃ k, k = 1074 := ⟨_, rfl⟩
  rw [unitInverse_eq hk]
  exact Nat.two_pow_pos k

theorem fractionBinade_eq {k : Nat} (h : k = 1022) (num den : Nat) :
    fractionBinade num den = Nat.log2 (num * 2 ^ k / den) + 1 := by
  rw [fractionBinade, ← h, Nat.pow_eq]

theorem exactDecimal_eq {j : Nat} (h : j = 1073) (b : Nat) :
    exactDecimal b = ⟨units b * 5 ^ (j + 1), .negSucc j⟩ := by
  have hpower : 1074 = j + 1 := by omega
  have hexponent : (-1074 : Int) = .negSucc j := by rw [h]; rfl
  unfold exactDecimal
  rw [hexponent, hpower, Nat.pow_eq]

theorem nearestMagnitude_eq (num den : Nat) :
    nearestMagnitude num den = min ((fractionBinade num den - 1) * 2 ^ 52 +
      nearestEven (num * unitInverse) (den * 2 ^ (fractionBinade num den - 1))) infinityBits :=
  rfl

theorem magnitude_ofNat (digits e : Nat) :
    Decimal.magnitude ⟨digits, .ofNat e⟩ =
      if digits = 0 then 0
      else if 400 < e then infinityBits else nearestMagnitude (digits * 10 ^ e) 1 :=
  rfl

theorem magnitude_negSucc (digits e : Nat) :
    Decimal.magnitude ⟨digits, .negSucc e⟩ =
      if digits = 0 then 0
      else if Nat.log2 digits + 1077 < 3 * (e + 1) then 0
      else nearestMagnitude digits (10 ^ (e + 1)) :=
  rfl

/-! ## Rounding an exact fraction -/

theorem nearestEven_mul (q : Nat) {den : Nat} (h : 0 < den) : nearestEven (q * den) den = q := by
  simp [nearestEven, Nat.mul_div_cancel q h, h]

theorem log2_div_pow {n k e : Nat} (hlo : 2 ^ (e + k) ≤ n) (hhi : n < 2 ^ (e + 1 + k)) :
    Nat.log2 (n / 2 ^ k) = e := by
  have hk : 0 < 2 ^ k := Nat.two_pow_pos k
  have hle : 2 ^ e ≤ n / 2 ^ k := (Nat.le_div_iff_mul_le hk).2 (by rwa [← Nat.pow_add])
  have hlt : n / 2 ^ k < 2 ^ (e + 1) := (Nat.div_lt_iff_lt_mul hk).2 (by rwa [← Nat.pow_add])
  have hpos : n / 2 ^ k ≠ 0 := by
    have := Nat.two_pow_pos e
    omega
  exact (Nat.log2_eq_iff hpos).2 ⟨hle, hlt⟩

/-- The binade of a magnitude is found from the magnitude. -/
theorem log2_units (b : Nat) : Nat.log2 (units b / 2 ^ 52) + 1 = binade b := by
  rw [units_eq, significand_eq, binade_eq]
  by_cases hb : b / 2 ^ 52 = 0
  · rw [if_pos hb, hb]
    have hsmall : b * 2 ^ (max 1 0 - 1) / 2 ^ 52 = 0 := by
      simpa using hb
    rw [hsmall]
    rfl
  · rw [if_neg hb]
    obtain ⟨e, he⟩ : ∃ e, b / 2 ^ 52 = e + 1 := ⟨b / 2 ^ 52 - 1, by omega⟩
    rw [he, show max 1 (e + 1) = e + 1 by omega, Nat.add_sub_cancel]
    have hm : b % 2 ^ 52 < 2 ^ 52 := Nat.mod_lt _ (by decide)
    have hpos := Nat.two_pow_pos e
    have hlo : 2 ^ (e + 52) ≤ (b % 2 ^ 52 + 2 ^ 52) * 2 ^ e := by
      rw [Nat.pow_add, Nat.mul_comm (2 ^ e)]
      exact Nat.mul_le_mul_right _ (Nat.le_add_left _ _)
    have hhi : (b % 2 ^ 52 + 2 ^ 52) * 2 ^ e < 2 ^ (e + 1 + 52) := by
      rw [show e + 1 + 52 = 53 + e by omega, Nat.pow_add]
      exact Nat.mul_lt_mul_of_pos_right (by omega) hpos
    rw [log2_div_pow hlo hhi]

theorem significand_add (b : Nat) : (binade b - 1) * 2 ^ 52 + significand b = b := by
  rw [binade_eq, significand_eq]
  split <;> omega

theorem scaled_div (n : Nat) {scale i j : Nat} (h : 0 < scale) :
    n * scale * 2 ^ i / (scale * (2 ^ i * 2 ^ j)) = n / 2 ^ j := by
  rw [← Nat.mul_assoc, Nat.mul_assoc, Nat.mul_comm n]
  exact Nat.mul_div_mul_left _ _ (Nat.mul_pos h (Nat.two_pow_pos i))

/-- Rounding a fraction that is a magnitude gives this magnitude. -/
theorem nearestMagnitude_units {b : Nat} (hlt : b < infinityBits) {scale : Nat}
    (hs : 0 < scale) : nearestMagnitude (units b * scale) (scale * unitInverse) = b := by
  have hbinade : fractionBinade (units b * scale) (scale * unitInverse) = binade b := by
    obtain ⟨i, hi⟩ : ∃ i, i = 1022 := ⟨_, rfl⟩
    have hsplit : unitInverse = 2 ^ i * 2 ^ 52 := by
      rw [← Nat.pow_add]
      exact unitInverse_eq (by omega)
    rw [fractionBinade_eq hi, hsplit, scaled_div _ hs, log2_units]
  have hround : nearestEven (units b * scale * unitInverse)
      (scale * unitInverse * 2 ^ (binade b - 1)) = significand b := by
    have hden : 0 < scale * unitInverse * 2 ^ (binade b - 1) :=
      Nat.mul_pos (Nat.mul_pos hs unitInverse_pos) (Nat.two_pow_pos _)
    rw [show units b * scale * unitInverse =
        significand b * (scale * unitInverse * 2 ^ (binade b - 1)) by rw [units_eq]; ring]
    exact nearestEven_mul _ hden
  rw [nearestMagnitude_eq, hbinade, hround, significand_add]
  omega

/-! ## Decimals that read back -/

theorem units_pos {b : Nat} (hb : b ≠ 0) : 0 < units b := by
  rw [units_eq, significand_eq]
  apply Nat.mul_pos _ (Nat.two_pow_pos _)
  split <;> omega

/-- An expansion with `k` places is not so small that it would be cut to zero. -/
theorem log2_mul_five_pow {n : Nat} (hn : 0 < n) (k : Nat) : 2 * k ≤ Nat.log2 (n * 5 ^ k) := by
  have hpos : 0 < n * 5 ^ k := Nat.mul_pos hn (Nat.pow_pos (by decide))
  refine (Nat.le_log2 hpos.ne').2 ?_
  calc 2 ^ (2 * k) = 4 ^ k := Nat.pow_mul 2 2 k
    _ ≤ 5 ^ k := Nat.pow_le_pow_left (by decide) k
    _ ≤ n * 5 ^ k := Nat.le_mul_of_pos_left _ hn

theorem magnitude_exactDecimal {b : Nat} (hb : b ≠ 0) (hlt : b < infinityBits) :
    (exactDecimal b).magnitude = b := by
  obtain ⟨j, hj⟩ : ∃ j, j = 1073 := ⟨_, rfl⟩
  have hpos : 0 < 5 ^ (j + 1) := Nat.pow_pos (by decide)
  have hne : units b * 5 ^ (j + 1) ≠ 0 := (Nat.mul_pos (units_pos hb) hpos).ne'
  have hlog := log2_mul_five_pow (units_pos hb) (j + 1)
  have hden : 10 ^ (j + 1) = 5 ^ (j + 1) * unitInverse := by
    rw [unitInverse_eq (by omega : j + 1 = 1074), ← Nat.mul_pow]
  rw [exactDecimal_eq hj, magnitude_negSucc, if_neg hne, if_neg (by omega), hden,
    nearestMagnitude_units hlt hpos]

theorem magnitude_neighbour {b : Nat} {e : Int} {d : Decimal} (h : neighbour b e = some d) :
    d.magnitude = b := by
  unfold neighbour at h
  simp only at h
  split at h
  · next hboth =>
    split at h
    · rw [← Option.some.inj h]
      exact hboth.1.2
    · rw [← Option.some.inj h]
      exact hboth.2
  · split at h
    · next hbelow =>
      rw [← Option.some.inj h]
      exact hbelow.2
    · split at h
      · next habove =>
        rw [← Option.some.inj h]
        exact habove
      · cases h

theorem magnitude_searchGrids {b fuel : Nat} {e : Int} {d : Decimal}
    (h : searchGrids b fuel e = some d) : d.magnitude = b := by
  induction fuel generalizing e with
  | zero => cases h
  | succ fuel ih =>
      rw [searchGrids] at h
      cases hn : neighbour b e with
      | some d' =>
          rw [hn] at h
          rw [← Option.some.inj h]
          exact magnitude_neighbour hn
      | none =>
          rw [hn] at h
          exact ih h

/-- The shortest decimal reads back, whether the search finds it or not. -/
theorem magnitude_shortest {b : Nat} (hb : b ≠ 0) (hlt : b < infinityBits) :
    (shortest b).magnitude = b := by
  unfold shortest
  cases h : searchGrids b 20 (coarsestGrid b) with
  | some d => exact magnitude_searchGrids h
  | none => exact magnitude_exactDecimal hb hlt

/-! ## Positional texts -/

theorem digitsValue_natDigits (n : Nat) : digitsValue (natDigits n) = n :=
  Nat.ofDigitChars_ten_toDigits

theorem natDigits_digit (n : Nat) : ∀ c ∈ natDigits n, c.isDigit = true :=
  fun _ hc => Nat.isDigit_of_mem_toDigits (by decide) (by decide) hc

theorem natDigits_ne (n : Nat) : natDigits n ≠ [] :=
  Nat.toDigits_ne_nil

theorem zeros_digit (k : Nat) : ∀ c ∈ List.replicate k '0', c.isDigit = true := by
  intro c hc
  rw [(List.mem_replicate.1 hc).2]
  rfl

theorem digitsValue_append_zeros (ds : List Char) (k : Nat) :
    digitsValue (ds ++ List.replicate k '0') = digitsValue ds * 10 ^ k := by
  induction k with
  | zero => simp
  | succ k ih =>
      rw [List.replicate_succ', ← List.append_assoc, digitsValue, List.foldl_append]
      change 10 * digitsValue (ds ++ List.replicate k '0') + 0 = _
      rw [ih]
      ring

theorem digitsValue_zeros_append (k : Nat) (ds : List Char) :
    digitsValue (List.replicate k '0' ++ ds) = digitsValue ds := by
  induction k with
  | zero => simp
  | succ k ih => exact ih

/-- The numeral has this text, and writes the number nearest to the decimal. -/
def Numeral.Writes (n : Numeral) (negative : Bool) (d : Decimal) : Prop :=
  n.text = signed negative (positional d) ∧ n.value = ofMagnitude negative d.magnitude

/-- Zeros after the digits carry the exponent, which is in range if the magnitude is finite. -/
theorem magnitude_zeros {digits e : Nat} (hd : digits ≠ 0)
    (hm : Decimal.magnitude ⟨digits, .ofNat e⟩ ≠ infinityBits) :
    Decimal.magnitude ⟨digits * 10 ^ e, .ofNat 0⟩ = Decimal.magnitude ⟨digits, .ofNat e⟩ := by
  have he : ¬ 400 < e := by
    intro hlarge
    rw [magnitude_ofNat, if_neg hd, if_pos hlarge] at hm
    exact hm rfl
  have hprod : digits * 10 ^ e ≠ 0 := Nat.mul_ne_zero hd (Nat.pow_pos (by decide)).ne'
  rw [magnitude_ofNat, magnitude_ofNat, if_neg hprod, if_neg hd, if_neg he, if_neg (by decide),
    Nat.pow_zero, Nat.mul_one]

theorem writes_whole {digits e : Nat} (negative : Bool) (hd : digits ≠ 0)
    (hm : Decimal.magnitude ⟨digits, .ofNat e⟩ ≠ infinityBits) :
    ∃ n : Numeral, n.Writes negative ⟨digits, .ofNat e⟩ := by
  have hdigit : ∀ c ∈ natDigits digits ++ List.replicate e '0', c.isDigit = true := by
    intro c hc
    rcases List.mem_append.1 hc with hc | hc
    · exact natDigits_digit digits c hc
    · exact zeros_digit e c hc
  have hne : natDigits digits ++ List.replicate e '0' ≠ [] := by simp [natDigits_ne]
  refine ⟨⟨negative, _, none, none, hdigit, by simp, Or.inl hne⟩, ?_, ?_⟩
  · simp [Numeral.text, Numeral.unsignedText, Numeral.mantissa, Numeral.exponentText, signed,
      positional]
  · simp only [Numeral.value, Numeral.decimal, Decimal.toFloat, Decimal.ofDigits,
      Option.getD_none, Option.map_none, List.append_nil, digitsValue_append_zeros,
      digitsValue_natDigits]
    rw [← magnitude_zeros hd hm]
    rfl

/-- The point stands among the digits. -/
theorem writes_among {digits e : Nat} (negative : Bool) (hlen : e + 1 < (natDigits digits).length) :
    ∃ n : Numeral, n.Writes negative ⟨digits, .negSucc e⟩ := by
  have hdigit := natDigits_digit digits
  have hwhole : (natDigits digits).take ((natDigits digits).length - (e + 1)) ≠ [] := by
    rw [Ne, List.take_eq_nil_iff]
    rintro (hshort | hnil)
    · omega
    · exact natDigits_ne digits hnil
  refine ⟨⟨negative, (natDigits digits).take ((natDigits digits).length - (e + 1)),
    some ((natDigits digits).drop ((natDigits digits).length - (e + 1))), none,
    fun c hc => hdigit c (List.mem_of_mem_take hc),
    fun c hc => hdigit c (List.mem_of_mem_drop hc), Or.inl hwhole⟩, ?_, ?_⟩
  · simp [Numeral.text, Numeral.unsignedText, Numeral.mantissa, Numeral.exponentText, signed,
      positional, hlen]
  · have hdrop : ((natDigits digits).drop ((natDigits digits).length - (e + 1))).length =
        e + 1 := by
      rw [List.length_drop]
      omega
    simp only [Numeral.value, Numeral.decimal, Decimal.toFloat, Decimal.ofDigits,
      Option.getD_some, Option.map_none, Option.getD_none, List.take_append_drop,
      digitsValue_natDigits, hdrop]
    rfl

/-- Zeros stand between the point and the digits. -/
theorem writes_behind {digits e : Nat} (negative : Bool)
    (hlen : ¬ e + 1 < (natDigits digits).length) :
    ∃ n : Numeral, n.Writes negative ⟨digits, .negSucc e⟩ := by
  generalize hz : List.replicate (e + 1 - (natDigits digits).length) '0' = zeros
  have hfrac : ∀ c ∈ zeros ++ natDigits digits, c.isDigit = true := by
    intro c hc
    rcases List.mem_append.1 hc with hc | hc
    · exact zeros_digit _ c (by rwa [hz])
    · exact natDigits_digit digits c hc
  refine ⟨⟨negative, ['0'], some (zeros ++ natDigits digits), none,
    List.forall_mem_singleton.2 rfl, hfrac, Or.inl (by simp)⟩, ?_, ?_⟩
  · simp [Numeral.text, Numeral.unsignedText, Numeral.mantissa, Numeral.exponentText, signed,
      positional, hlen, hz]
  · have hlength : (zeros ++ natDigits digits).length = e + 1 := by
      rw [← hz, List.length_append, List.length_replicate]
      omega
    have hvalue : digitsValue (['0'] ++ (zeros ++ natDigits digits)) = digits := by
      rw [← hz, show ['0'] = List.replicate 1 '0' from rfl, digitsValue_zeros_append,
        digitsValue_zeros_append, digitsValue_natDigits]
    simp only [Numeral.value, Numeral.decimal, Decimal.toFloat, Decimal.ofDigits,
      Option.getD_some, Option.map_none, Option.getD_none, hvalue, hlength]
    rfl

/-- The positional text of a decimal is that of a numeral with the same value. -/
theorem positional_numeral {d : Decimal} (negative : Bool) (hd : d.digits ≠ 0)
    (hm : d.magnitude ≠ infinityBits) : ∃ n : Numeral, n.Writes negative d := by
  obtain ⟨digits, exponent⟩ := d
  cases exponent with
  | ofNat e => exact writes_whole negative hd hm
  | negSucc e =>
      by_cases hlen : e + 1 < (natDigits digits).length
      · exact writes_among negative hlen
      · exact writes_behind negative hlen

/-- The plain text of a finite number is a numeral that writes this number. -/
theorem plain_numeral {x : Float} {negative : Bool} {magnitude : Nat}
    (h : kind x = .finite negative magnitude) :
    ∃ n : Numeral, n.text = (plain x).toList ∧ n.value = x := by
  obtain ⟨hlt, hx⟩ := ofMagnitude_of_kind h
  have htext : (plain x).toList = signed negative (plainMagnitude magnitude) := by
    simp [plain, layout, h]
  rw [htext, plainMagnitude]
  by_cases hz : magnitude = 0
  · subst hz
    rw [if_pos rfl]
    refine ⟨⟨negative, ['0'], none, none, List.forall_mem_singleton.2 rfl, by simp,
      Or.inl (by simp)⟩, ?_, ?_⟩
    · simp [Numeral.text, Numeral.unsignedText, Numeral.mantissa, Numeral.exponentText, signed]
    · rw [← hx]
      rfl
  · rw [if_neg hz]
    have hback := magnitude_shortest hz hlt
    have hdigits : (shortest magnitude).digits ≠ 0 := by
      intro h0
      rw [Decimal.magnitude, if_pos h0] at hback
      exact hz hback.symm
    obtain ⟨n, hn, hv⟩ := positional_numeral negative hdigits (by rw [hback]; omega)
    exact ⟨n, hn, by rw [hv, hback, hx]⟩

end ArrowLisp.Number
