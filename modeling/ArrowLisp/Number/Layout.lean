import ArrowLisp.Number.Shortest

/-!
# Number texts

Three layouts. The plain one writes the shortest digits positionally, with no exponent and no
point after a whole number. The annotated one marks whole numbers with `.0` and turns to
scientific form below `10 ^ (-4)` and from `10 ^ 16`. The fixed one has six places after the
point, rounding the exact value half to even. A negative sign is kept in front of zero, and the
undefined number has none.
-/

namespace ArrowLisp.Number

/-- The digits of a natural number. -/
def natDigits (n : Nat) : List Char :=
  Nat.toDigits 10 n

/-- Writes a decimal positionally. -/
def positional (d : Decimal) : List Char :=
  let ds := natDigits d.digits
  match d.exponent with
  | .ofNat e => ds ++ List.replicate e '0'
  | .negSucc e =>
    let places := e + 1
    if places < ds.length then
      ds.take (ds.length - places) ++ '.' :: ds.drop (ds.length - places)
    else '0' :: '.' :: List.replicate (places - ds.length) '0' ++ ds

/-- An integer with a minus sign when it is negative. -/
def intDigits : Int → List Char
  | .ofNat n => natDigits n
  | .negSucc n => '-' :: natDigits (n + 1)

/-- Writes a decimal with one digit before the point and an exponent. -/
def scientific (d : Decimal) : List Char :=
  match natDigits d.digits with
  | [] => []
  | [c] => c :: 'e' :: intDigits d.exponent
  | c :: cs => c :: '.' :: cs ++ 'e' :: intDigits (d.exponent + cs.length)

/-- Puts the sign in front of a text. -/
def signed (negative : Bool) (cs : List Char) : List Char :=
  if negative then '-' :: cs else cs

/-- A layout for finite magnitudes, completed to all numbers. -/
def layout (finite : Nat → List Char) (x : Float) : String :=
  String.ofList <| match kind x with
    | .undefined => ['N', 'a', 'N']
    | .infinite negative => signed negative ['i', 'n', 'f']
    | .finite negative b => signed negative (finite b)

/-- The plain text of a magnitude. -/
def plainMagnitude (b : Nat) : List Char :=
  if b = 0 then ['0'] else positional (shortest b)

/-- Marks a positional text without a point as whole. -/
def withPoint (cs : List Char) : List Char :=
  if cs.contains '.' then cs else cs ++ ['.', '0']

/-- The annotated text of a magnitude. -/
def annotatedMagnitude (b : Nat) : List Char :=
  if b = 0 then ['0', '.', '0']
  else
    let n := units b
    if unitInverse ≤ n * Nat.pow 10 4 ∧ n < Nat.pow 10 16 * unitInverse then
      withPoint (positional (shortest b))
    else scientific (shortest b)

/-- The text of a magnitude with six places. -/
def fixedMagnitude (b : Nat) : List Char :=
  let n := nearestEven (units b * Nat.pow 10 6) unitInverse
  let places := natDigits (n % Nat.pow 10 6)
  natDigits (n / Nat.pow 10 6) ++ '.' :: List.replicate (6 - places.length) '0' ++ places

/-- The text of a number in programs, values and messages. -/
def plain (x : Float) : String :=
  layout plainMagnitude x

/-- The text of a number that shows its kind. -/
def annotated (x : Float) : String :=
  layout annotatedMagnitude x

/-- The text of a number joined into a longer text. -/
def fixed (x : Float) : String :=
  layout fixedMagnitude x

end ArrowLisp.Number
