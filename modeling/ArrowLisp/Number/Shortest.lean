import ArrowLisp.Number.Decimal

/-!
# The shortest decimal that reads back

To print a magnitude, look at the grids of decimals from coarse to fine. On each grid only the two
neighbours of the magnitude can be nearest to it. The first grid on which a neighbour reads back as
the magnitude gives the fewest digits; of two such neighbours the nearer one is taken, and the
upper one when they are equally near. Should the search end without a hit, the exact decimal
expansion stands in, which always reads back.
-/

namespace ArrowLisp.Number

/-- The power `10 ^ e` as a fraction. -/
def powerOfTen : Int → Nat × Nat
  | .ofNat e => (Nat.pow 10 e, 1)
  | .negSucc e => (1, Nat.pow 10 (e + 1))

/-- The decimal expansion of a magnitude to its last digit. -/
def exactDecimal (b : Nat) : Decimal :=
  ⟨units b * Nat.pow 5 1074, -1074⟩

/-- The neighbour of the magnitude `b` on the grid of multiples of `10 ^ e` that reads back as
`b`. -/
def neighbour (b : Nat) (e : Int) : Option Decimal :=
  let (up, down) := powerOfTen e
  let num := units b * down
  let den := unitInverse * up
  let below : Decimal := ⟨num / den, e⟩
  let above : Decimal := ⟨num / den + 1, e⟩
  let okBelow := below.digits ≠ 0 ∧ below.magnitude = b
  let okAbove := above.magnitude = b
  if okBelow ∧ okAbove then
    if 2 * (num % den) < den then some below else some above
  else if okBelow then some below
  else if okAbove then some above
  else none

/-- Looks at `fuel` grids from `10 ^ e` downwards. -/
def searchGrids (b : Nat) : Nat → Int → Option Decimal
  | 0, _ => none
  | fuel + 1, e =>
    match neighbour b e with
    | some d => some d
    | none => searchGrids b fuel (e - 1)

/-- A power of ten above the magnitude `b`, at most two orders too large. -/
def coarsestGrid (b : Nat) : Int :=
  ((Nat.log2 (units b) : Int) - 1073) * 30103 / 100000 + 1

/-- The shortest decimal that reads back as the magnitude `b`. -/
def shortest (b : Nat) : Decimal :=
  (searchGrids b 20 (coarsestGrid b)).getD (exactDecimal b)

end ArrowLisp.Number
