/-!
# Binary64 numbers as exact fractions

A number that is neither infinite nor undefined has a sign and a magnitude. The bit patterns of
the magnitudes are the naturals below `infinityBits`, in the order of the magnitudes: pattern `b`
stands for `significand b * 2 ^ (binade b - 1) / 2 ^ 1074`. Rounding an exact fraction finds its
binade, rounds the significand half to even, and adds the two fields; a significand that rounds up
to the next power of two carries into the next binade by that addition.

Scope: conversion between numbers and fractions. Arithmetic is that of `Float`.
-/

namespace ArrowLisp.Number

/-- The pattern of the infinite magnitude. -/
def infinityBits : Nat := 2047 * Nat.pow 2 52

/-- The binade of a magnitude, counted from one; the subnormal magnitudes share the first. -/
def binade (b : Nat) : Nat :=
  max 1 (b / Nat.pow 2 52)

/-- The significand of a magnitude, with the leading bit that normal ones leave out. -/
def significand (b : Nat) : Nat :=
  if b / Nat.pow 2 52 = 0 then b else b % Nat.pow 2 52 + Nat.pow 2 52

/-- All magnitudes are whole multiples of the least one, which is one over this. -/
def unitInverse : Nat := Nat.pow 2 1074

/-- How often the least magnitude goes into the magnitude `b`. -/
def units (b : Nat) : Nat :=
  significand b * Nat.pow 2 (binade b - 1)

/-- A fraction rounded to the nearest natural, a half to the even neighbour. -/
def nearestEven (num den : Nat) : Nat :=
  let q := num / den
  let r := num % den
  if 2 * r < den then q
  else if den < 2 * r then q + 1
  else if q % 2 = 0 then q else q + 1

/-- The binade that holds a positive fraction. -/
def fractionBinade (num den : Nat) : Nat :=
  Nat.log2 (num * Nat.pow 2 1022 / den) + 1

/-- The magnitude nearest to the fraction `num / den`, infinite from halfway beyond the greatest
finite one. -/
def nearestMagnitude (num den : Nat) : Nat :=
  let e := fractionBinade num den
  min ((e - 1) * Nat.pow 2 52 + nearestEven (num * unitInverse) (den * Nat.pow 2 (e - 1)))
    infinityBits

/-- What a number is. -/
inductive Kind where
  | undefined
  | infinite (negative : Bool)
  | finite (negative : Bool) (magnitude : Nat)
deriving DecidableEq, Repr

/-- The sign and magnitude of a number. -/
def kind (x : Float) : Kind :=
  let b := x.toBits.toNat
  let negative := decide (Nat.pow 2 63 ≤ b)
  let magnitude := b % Nat.pow 2 63
  if magnitude < infinityBits then .finite negative magnitude
  else if magnitude = infinityBits then .infinite negative
  else .undefined

/-- The number with a sign and a magnitude pattern. -/
def ofMagnitude (negative : Bool) (magnitude : Nat) : Float :=
  Float.ofBits (UInt64.ofNat (if negative then Nat.pow 2 63 + magnitude else magnitude))

/-- The number that stands for no value. -/
def undefined : Float := Float.ofBits 0x7ff8000000000000

end ArrowLisp.Number
