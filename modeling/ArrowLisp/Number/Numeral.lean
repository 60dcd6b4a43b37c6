import ArrowLisp.Number.Decimal

/-!
# Numerals

Two grammars for the text of a number. A *numeral* is what the reader takes off the front of a
program: an optional minus sign, digits with an optional point among or around them, and an
optional exponent. A *typed number* is a whole text a program reads at run time: it may also start
with a plus sign and may be one of the words for the infinite and the undefined number.
-/

namespace ArrowLisp.Number

/-- A sign at the front of an exponent, if there is one. -/
def takeSign : List Char → List Char × List Char
  | '+' :: rest => (['+'], rest)
  | '-' :: rest => (['-'], rest)
  | cs => ([], cs)

/-- An exponent part off the front of a text: the letter, a sign and at least one digit. -/
def takeExponent : List Char → Option (List Char × List Char)
  | c :: cs =>
    if c = 'e' ∨ c = 'E' then
      match (takeSign cs).2.takeWhile Char.isDigit with
      | [] => none
      | d :: ds =>
        some (c :: (takeSign cs).1 ++ d :: ds, (takeSign cs).2.dropWhile Char.isDigit)
    else none
  | [] => none

/-- Digits with an optional point; a digit stands on at least one side of the point. -/
def takeMantissa (cs : List Char) : Option (List Char × List Char) :=
  match cs.takeWhile Char.isDigit, cs.dropWhile Char.isDigit with
  | [], '.' :: rest =>
    match rest.takeWhile Char.isDigit with
    | [] => none
    | d :: ds => some ('.' :: d :: ds, rest.dropWhile Char.isDigit)
  | [], _ => none
  | d :: ds, '.' :: rest =>
    some (d :: ds ++ '.' :: rest.takeWhile Char.isDigit, rest.dropWhile Char.isDigit)
  | d :: ds, rest => some (d :: ds, rest)

/-- The longest numeral without a sign at the front of a text, and what follows. -/
def takeUnsigned (cs : List Char) : Option (List Char × List Char) := do
  let (mantissa, rest) ← takeMantissa cs
  match takeExponent rest with
  | some (exponent, rest') => return (mantissa ++ exponent, rest')
  | none => return (mantissa, rest)

/-- The longest numeral at the front of a text, and what follows. -/
def takeNumeral : List Char → Option (List Char × List Char)
  | '-' :: cs => (takeUnsigned cs).map fun p => ('-' :: p.1, p.2)
  | cs => takeUnsigned cs

theorem length_takeWhile_add {α : Type} (p : α → Bool) (l : List α) :
    (l.takeWhile p).length + (l.dropWhile p).length = l.length := by
  rw [← List.length_append, List.takeWhile_append_dropWhile]

theorem length_of_takeMantissa {cs lexeme rest : List Char}
    (h : takeMantissa cs = some (lexeme, rest)) : rest.length < cs.length := by
  have hcs := length_takeWhile_add Char.isDigit cs
  unfold takeMantissa at h
  split at h
  · next tail ht hd =>
    have htail := length_takeWhile_add Char.isDigit tail
    rw [ht, hd, List.length_cons] at hcs
    split at h
    · simp at h
    · simp only [Option.some.injEq, Prod.mk.injEq] at h
      rw [← h.2]
      omega
  · simp at h
  · next d ds tail ht hd =>
    have htail := length_takeWhile_add Char.isDigit tail
    rw [ht, hd, List.length_cons, List.length_cons] at hcs
    simp only [Option.some.injEq, Prod.mk.injEq] at h
    rw [← h.2]
    omega
  · next d ds ht _ =>
    rw [ht, List.length_cons] at hcs
    simp only [Option.some.injEq, Prod.mk.injEq] at h
    rw [← h.2]
    omega

theorem length_takeSign_le (cs : List Char) : (takeSign cs).2.length ≤ cs.length := by
  unfold takeSign
  split <;> simp

theorem length_of_takeExponent {cs lexeme rest : List Char}
    (h : takeExponent cs = some (lexeme, rest)) : rest.length < cs.length := by
  unfold takeExponent at h
  split at h
  · next c tail =>
    have hsign := length_takeSign_le tail
    have hsplit := length_takeWhile_add Char.isDigit (takeSign tail).2
    split at h
    · split at h
      · simp at h
      · simp only [Option.some.injEq, Prod.mk.injEq] at h
        rw [← h.2, List.length_cons]
        omega
    · simp at h
  · simp at h

theorem length_of_takeUnsigned {cs lexeme rest : List Char}
    (h : takeUnsigned cs = some (lexeme, rest)) : rest.length < cs.length := by
  unfold takeUnsigned at h
  cases hm : takeMantissa cs with
  | none => simp [hm] at h
  | some p =>
    have hlt := @length_of_takeMantissa _ p.1 p.2 hm
    simp only [hm, bind, Option.bind] at h
    split at h
    · next he =>
      have hlt' := length_of_takeExponent he
      simp only [pure, Option.some.injEq, Prod.mk.injEq] at h
      rw [← h.2]
      omega
    · simp only [pure, Option.some.injEq, Prod.mk.injEq] at h
      rw [← h.2]
      exact hlt

/-- A numeral is never empty. -/
theorem length_of_takeNumeral {cs lexeme rest : List Char}
    (h : takeNumeral cs = some (lexeme, rest)) : rest.length < cs.length := by
  unfold takeNumeral at h
  split at h
  · obtain ⟨p, hp, he⟩ := Option.map_eq_some_iff.1 h
    have hlt := @length_of_takeUnsigned _ p.1 p.2 hp
    simp only [Prod.mk.injEq] at he
    rw [← he.2, List.length_cons]
    omega
  · exact length_of_takeUnsigned h

/-- The exponent of a typed number: nothing, or a letter, a sign and digits to the end. -/
def parseExponent : List Char → Option Int
  | [] => some 0
  | c :: cs =>
    if c = 'e' ∨ c = 'E' then
      let negative := cs.head? = some '-'
      let ds := (takeSign cs).2
      if ds.isEmpty || !ds.all Char.isDigit then none
      else some (if negative then -(digitsValue ds : Int) else digitsValue ds)
    else none

/-- The decimal that a text without a sign writes, if it is one. -/
def parseUnsigned (cs : List Char) : Option Decimal :=
  let whole := cs.takeWhile Char.isDigit
  let (fraction, rest) : List Char × List Char :=
    match cs.dropWhile Char.isDigit with
    | '.' :: rest => (rest.takeWhile Char.isDigit, rest.dropWhile Char.isDigit)
    | rest => ([], rest)
  if whole.isEmpty && fraction.isEmpty then none
  else (parseExponent rest).map (Decimal.ofDigits whole fraction)

/-- The words for numbers without digits, in any case. -/
def parseWord (negative : Bool) (cs : List Char) : Option Float :=
  let word := String.ofList (cs.map Char.toLower)
  if word = "inf" ∨ word = "infinity" then some (ofMagnitude negative infinityBits)
  else if word = "nan" then some undefined
  else none

/-- A typed number whose sign has been taken off. -/
def parseMagnitude (negative : Bool) (cs : List Char) : Option Float :=
  match parseUnsigned cs with
  | some d => some (d.toFloat negative)
  | none => parseWord negative cs

/-- The number that a whole text writes, if it writes one. -/
def parse : List Char → Option Float
  | '+' :: cs => parseMagnitude false cs
  | '-' :: cs => parseMagnitude true cs
  | cs => parseMagnitude false cs

end ArrowLisp.Number
