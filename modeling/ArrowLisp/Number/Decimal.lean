import ArrowLisp.Number.Binary

/-!
# Decimals

A decimal is a natural number of units `10 ^ exponent`. Reading one rounds it to the nearest
number. Exponents can be written that no magnitude reaches, so far too large and far too small
decimals are settled before any power of ten is computed.
-/

namespace ArrowLisp.Number

/-- The value `digits * 10 ^ exponent`. -/
structure Decimal where
  digits : Nat
  exponent : Int
deriving DecidableEq, Repr

/-- The magnitude nearest to a decimal. Above `10 ^ 400` all is infinite. Below
`10 ^ (-k)` with `3 * k` past the bits of the digits and of the least magnitude, all is zero. -/
def Decimal.magnitude (d : Decimal) : Nat :=
  if d.digits = 0 then 0
  else
    match d.exponent with
    | .ofNat e =>
      if 400 < e then infinityBits else nearestMagnitude (d.digits * Nat.pow 10 e) 1
    | .negSucc e =>
      if Nat.log2 d.digits + 1077 < 3 * (e + 1) then 0
      else nearestMagnitude d.digits (Nat.pow 10 (e + 1))

/-- The number nearest to a decimal with a sign. -/
def Decimal.toFloat (d : Decimal) (negative : Bool) : Float :=
  ofMagnitude negative d.magnitude

/-- The value of a row of decimal digits. -/
def digitsValue (ds : List Char) : Nat :=
  ds.foldl (fun n c => 10 * n + (c.toNat - '0'.toNat)) 0

/-- The decimal written with these digits before and after the point, and this exponent. -/
def Decimal.ofDigits (whole fraction : List Char) (exponent : Int) : Decimal :=
  ⟨digitsValue (whole ++ fraction), exponent - fraction.length⟩

end ArrowLisp.Number
