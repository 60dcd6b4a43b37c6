import ArrowLisp.Number.Binary
import Mathlib

/-!
# Bit patterns of numbers

A number is its bit pattern, and the patterns that stand for no value have one representative. So
taking the pattern and building a number from it are inverse to each other on all other patterns,
and a number is determined by what `kind` says of it.
-/

namespace ArrowLisp.Number

open Float.Model Float.Model.UnpackedFloat

theorem infinityBits_eq : infinityBits = 2047 * 2 ^ 52 := rfl

theorem kind_eq (x : Float) :
    kind x =
      if x.toBits.toNat % 2 ^ 63 < infinityBits then
        .finite (decide (2 ^ 63 ≤ x.toBits.toNat)) (x.toBits.toNat % 2 ^ 63)
      else if x.toBits.toNat % 2 ^ 63 = infinityBits then
        .infinite (decide (2 ^ 63 ≤ x.toBits.toNat))
      else .undefined :=
  rfl

/-! ## The fields of a pattern as naturals -/

theorem toNat_unpackMantissa (b : BitVec 64) :
    (@unpackMantissa Format.binary64 b).toNat = b.toNat % 2 ^ 52 := by
  simp [unpackMantissa, BitVec.extractLsb_toNat]

theorem toNat_unpackExponent (b : BitVec 64) :
    (@unpackExponent Format.binary64 b).toNat = b.toNat / 2 ^ 52 % 2 ^ 11 := by
  simp [unpackExponent, BitVec.extractLsb_toNat, Nat.shiftRight_eq_div_pow]

theorem toNat_unpackSign (b : BitVec 64) :
    (@unpackSign Format.binary64 b).toNat = b.toNat / 2 ^ 63 % 2 := by
  simp [unpackSign, BitVec.extractLsb_toNat, Nat.shiftRight_eq_div_pow]

theorem toNat_packComponents (s : Sign) (e : BitVec 11) (m : BitVec 52) :
    (packComponents Format.binary64 s e m).toNat =
      s.toBitVec.toNat * 2 ^ 63 + e.toNat * 2 ^ 52 + m.toNat := by
  have he : e.toNat < 2 ^ 11 := e.isLt
  have hm : m.toNat < 2 ^ 52 := m.isLt
  simp only [packComponents, BitVec.toNat_append]
  rw [← Nat.shiftLeft_add_eq_or_of_lt he, ← Nat.shiftLeft_add_eq_or_of_lt hm]
  simp only [Nat.shiftLeft_eq]
  omega

theorem toNat_sign (s : BitVec 1) : (Sign.ofBitVec s).toBitVec.toNat = s.toNat := by
  have hs : s.toNat < 2 := s.isLt
  unfold Sign.ofBitVec
  split
  · next h => rw [h]; rfl
  · next h =>
    have hne : s.toNat ≠ 0 := fun h0 => h (BitVec.eq_of_toNat_eq h0)
    change 1 = s.toNat
    omega

/-! ## Patterns of values -/

/-- The pattern stands for a finite or infinite number. -/
def IsValue (n : Nat) : Prop :=
  n % 2 ^ 63 ≤ infinityBits

theorem not_undefined {b : BitVec 64} (h : IsValue b.toNat)
    (he : @unpackExponent Format.binary64 b = -1#_) :
    @unpackMantissa Format.binary64 b = 0#_ := by
  have hexp := congrArg BitVec.toNat he
  rw [toNat_unpackExponent] at hexp
  change b.toNat / 2 ^ 52 % 2 ^ 11 = 2047 at hexp
  apply BitVec.eq_of_toNat_eq
  rw [toNat_unpackMantissa]
  change b.toNat % 2 ^ 52 = 0
  rw [IsValue, infinityBits_eq] at h
  omega

theorem exponentBias_eq : Format.binary64.exponentBias = 1023 := rfl

theorem mantissaBits_eq : Format.binary64.mantissaBits = 53 := rfl

/-- A significand with 53 bits is packed as a normal number. -/
theorem pack_normal (s : Sign) {m : Nat} {e : Int} (biased : Nat) (hm : 0 < m) (hlo : 2 ^ 52 ≤ m)
    (hhi : m < 2 ^ 53) (he : e = (biased : Int) - (1023 + 52)) (hb : biased < 2047) :
    UnpackedFloat.pack Format.binary64 (.finite s m e hm) =
      packComponents Format.binary64 s (BitVec.ofNat 11 biased) (BitVec.ofNat 52 m) := by
  have hexp : (e + Format.binary64.exponentBias + (52 : Nat)).toNat = biased := by
    rw [exponentBias_eq]
    omega
  have hlog : m.log2 = 52 := (Nat.log2_eq_iff (by omega)).2 ⟨hlo, hhi⟩
  rw [UnpackedFloat.pack]
  simp only [hexp]
  rw [if_neg (by omega), if_pos (by rw [mantissaBits_eq, hlog])]

/-- A shorter significand is packed as a subnormal number. -/
theorem pack_subnormal (s : Sign) {m : Nat} {e : Int} (hm : 0 < m) (hhi : m < 2 ^ 52)
    (he : e = (0 : Nat) - (1023 + 52) + 1) :
    UnpackedFloat.pack Format.binary64 (.finite s m e hm) =
      packComponents Format.binary64 s 0#11 (BitVec.ofNat 52 m) := by
  have hexp : (e + Format.binary64.exponentBias + (52 : Nat)).toNat = 1 := by
    rw [exponentBias_eq]
    omega
  have hlog : m.log2 < 52 := (Nat.log2_lt (by omega)).2 hhi
  rw [UnpackedFloat.pack]
  simp only [hexp]
  rw [if_neg (by decide), if_neg (by rw [mantissaBits_eq]; omega)]

theorem pack_normal_fields (s : Sign) {e : BitVec 11} (m : BitVec 52) {i : Int}
    (he : e.toNat < 2047) (hi : i = (e.toNat : Int) - (1023 + 52)) (h : 0 < (1#1 ++ m).toNat) :
    UnpackedFloat.pack Format.binary64 (.finite s (1#1 ++ m).toNat i h) =
      packComponents Format.binary64 s e m := by
  have hm : m.toNat < 2 ^ 52 := m.isLt
  have hfull : (1#1 ++ m).toNat = 2 ^ 52 + m.toNat := by
    rw [BitVec.toNat_append, ← Nat.shiftLeft_add_eq_or_of_lt hm]
    rfl
  have hlow : BitVec.ofNat 52 (1#1 ++ m).toNat = m := by
    apply BitVec.eq_of_toNat_eq
    rw [BitVec.toNat_ofNat, hfull]
    omega
  refine (pack_normal s e.toNat h (by omega) (by omega) hi he).trans ?_
  rw [hlow, BitVec.ofNat_toNat, BitVec.setWidth_eq]

theorem packComponents_unpack (b : BitVec 64) :
    packComponents Format.binary64 (Sign.ofBitVec (@unpackSign Format.binary64 b))
      (@unpackExponent Format.binary64 b) (@unpackMantissa Format.binary64 b) = b := by
  have hlt : b.toNat < 2 ^ 64 := b.isLt
  apply BitVec.eq_of_toNat_eq
  rw [toNat_packComponents, toNat_sign, toNat_unpackSign, toNat_unpackExponent,
    toNat_unpackMantissa]
  omega

/-- Unpacking a pattern and packing it again changes nothing, unless it stands for no value. -/
theorem pack_unpack {b : BitVec 64} (h : IsValue b.toNat) :
    UnpackedFloat.pack Format.binary64 (UnpackedFloat.unpack Format.binary64 b) = b := by
  have again := packComponents_unpack b
  have hvalue := not_undefined h
  generalize hE : @unpackExponent Format.binary64 b = e at again hvalue
  generalize hM : @unpackMantissa Format.binary64 b = m at again hvalue
  unfold UnpackedFloat.unpack
  simp only [hE, hM]
  split
  · next he =>
    rw [if_pos (hvalue he)]
    rwa [he, hvalue he] at again
  · next hne =>
    split
    · next hz =>
      subst hz
      split
      · next hm =>
        subst hm
        exact again
      · next hm =>
        have hpos : 0 < m.toNat := Nat.pos_of_ne_zero fun h0 => hm (BitVec.eq_of_toNat_eq h0)
        refine (pack_subnormal _ hpos m.isLt rfl).trans ?_
        rwa [BitVec.ofNat_toNat, BitVec.setWidth_eq]
    · have he : e.toNat < 2047 := by
        have hlt : e.toNat < 2 ^ 11 := e.isLt
        have : e.toNat ≠ 2047 := fun h0 => hne (BitVec.eq_of_toNat_eq h0)
        omega
      exact (pack_normal_fields _ m he rfl _).trans again

/-! ## Numbers and their patterns -/

theorem toBits_ofBits {b : UInt64} (h : IsValue b.toNat) : (Float.ofBits b).toBits = b := by
  change UInt64.ofBitVec (UnpackedFloat.pack Format.binary64
    (UnpackedFloat.unpack Format.binary64 b.toBitVec)) = b
  rw [pack_unpack h]

theorem float_ext {x y : Float} (h : x.toBits = y.toBits) : x = y := by
  obtain ⟨⟨b, hb⟩⟩ := x
  obtain ⟨⟨c, hc⟩⟩ := y
  have hbc : b = c := h
  subst hbc
  rfl

/-- The pattern of a sign and a magnitude. -/
def signedBits (negative : Bool) (magnitude : Nat) : Nat :=
  if negative then 2 ^ 63 + magnitude else magnitude

theorem toNat_toBits_ofMagnitude (negative : Bool) {magnitude : Nat}
    (h : magnitude ≤ infinityBits) :
    (ofMagnitude negative magnitude).toBits.toNat = signedBits negative magnitude := by
  have hlt : signedBits negative magnitude < 2 ^ 64 := by
    rw [infinityBits_eq] at h
    unfold signedBits
    split <;> omega
  have hn :
      (UInt64.ofNat (signedBits negative magnitude)).toNat = signedBits negative magnitude := by
    rw [UInt64.toNat_ofNat']
    exact Nat.mod_eq_of_lt hlt
  have hv : IsValue (UInt64.ofNat (signedBits negative magnitude)).toNat := by
    rw [infinityBits_eq] at h
    rw [hn, IsValue, infinityBits_eq]
    unfold signedBits
    split <;> omega
  change (Float.ofBits (UInt64.ofNat (signedBits negative magnitude))).toBits.toNat = _
  rw [toBits_ofBits hv, hn]

theorem kind_ofMagnitude (negative : Bool) {magnitude : Nat} (h : magnitude ≤ infinityBits) :
    kind (ofMagnitude negative magnitude) =
      if magnitude < infinityBits then .finite negative magnitude else .infinite negative := by
  have hbits := toNat_toBits_ofMagnitude negative h
  have hmod : signedBits negative magnitude % 2 ^ 63 = magnitude := by
    rw [infinityBits_eq] at h
    unfold signedBits
    split <;> omega
  have hsign : decide (2 ^ 63 ≤ signedBits negative magnitude) = negative := by
    rw [infinityBits_eq] at h
    unfold signedBits
    cases negative <;> simp
    omega
  simp only [kind_eq, hbits, hmod, hsign]
  split
  · rfl
  · next hlt => rw [if_pos (by omega)]

/-- A number that is neither infinite nor undefined is the one of its sign and magnitude. -/
theorem ofMagnitude_of_kind {x : Float} {negative : Bool} {magnitude : Nat}
    (h : kind x = .finite negative magnitude) :
    magnitude < infinityBits ∧ ofMagnitude negative magnitude = x := by
  have hlt : x.toBits.toNat < 2 ^ 64 := x.toBits.toNat_lt
  rw [kind_eq] at h
  split at h
  · next hm =>
    simp only [Kind.finite.injEq] at h
    obtain ⟨hn, rfl⟩ := h
    refine ⟨hm, float_ext (UInt64.toNat_inj.1 ?_)⟩
    rw [toNat_toBits_ofMagnitude negative (by omega), ← hn]
    unfold signedBits
    split
    · next hs => simp only [decide_eq_true_eq] at hs; omega
    · next hs => simp only [decide_eq_true_eq] at hs; omega
  · split at h <;> cases h

/-- A number other than the undefined one equals itself. -/
theorem beq_self {x : Float} (h : kind x ≠ .undefined) : (x == x) = true := by
  have hv : IsValue x.toBits.toNat := by
    rw [kind_eq] at h
    unfold IsValue
    split at h
    · omega
    · split at h
      · omega
      · exact absurd rfl h
  have hu : UnpackedFloat.unpack Format.binary64 x.toBits.toBitVec ≠ .notANumber := by
    unfold UnpackedFloat.unpack
    simp only
    split
    · next he => rw [if_pos (not_undefined hv he)]; simp
    · split
      · split <;> simp
      · simp
  change UnpackedFloat.beq (UnpackedFloat.unpack Format.binary64 x.toBits.toBitVec)
    (UnpackedFloat.unpack Format.binary64 x.toBits.toBitVec) = true
  cases hx : UnpackedFloat.unpack Format.binary64 x.toBits.toBitVec with
  | notANumber => exact absurd hx hu
  | infinity s => cases s <;> rfl
  | zero s => cases s <;> rfl
  | finite s m e hm => cases s <;> simp [UnpackedFloat.beq, UnpackedFloat.compare]

end ArrowLisp.Number
