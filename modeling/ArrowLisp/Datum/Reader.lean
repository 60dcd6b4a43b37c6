import ArrowLisp.Datum.Balance
import ArrowLisp.Number.Numeral
import ArrowLisp.ParseError
import ArrowLisp.Text.Alphanumeric
import ArrowLisp.Text.Blank
import ArrowLisp.Text.Bytes

/-!
# The reader

Takes data off the front of a text, one at a time. Before each datum the brackets of all the text
that is left are checked, so a bracket fault further on is reported before anything is read. Each
step returns what is left together with the fact that it got shorter, and the reader needs no
other bound.
-/

namespace ArrowLisp

/-- The text after the blanks, commas and comments at its front. -/
def skipBlanks : List Char → List Char
  | [] => []
  | ';' :: cs => skipBlanks (cs.dropWhile (· ≠ '\n'))
  | c :: cs =>
    if c = ' ' ∨ c = '\t' ∨ c = '\r' ∨ c = '\n' ∨ c = ',' then skipBlanks cs else c :: cs
termination_by cs => cs.length
decreasing_by
  · have := Text.length_dropWhile_le (· ≠ '\n') cs
    simp only [List.length_cons]
    omega
  · simp

theorem length_skipBlanks_le (cs : List Char) : (skipBlanks cs).length ≤ cs.length := by
  fun_induction skipBlanks cs with
  | case1 => simp
  | case2 cs ih =>
    have := Text.length_dropWhile_le (· ≠ '\n') cs
    simp only [List.length_cons]
    omega
  | case3 c cs _ _ ih =>
    simp only [List.length_cons]
    omega
  | case4 => simp

theorem length_of_skipBlanks {cs rest : List Char} {c : Char} (h : skipBlanks cs = c :: rest) :
    rest.length < cs.length := by
  have hle := length_skipBlanks_le cs
  rw [h, List.length_cons] at hle
  omega

/-- May this character follow a number? -/
def isDelimiter (c : Char) : Bool :=
  Text.isBlank c || (closerOf c).isSome || isCloser c || c = ';' || c = ','

def isSymbolChar (c : Char) : Bool :=
  Text.isAlphanumeric c || "-_+*/=<>?!%".toList.contains c

/-- What an escaped character stands for in a string literal. -/
def unescape : Char → Char
  | 'n' => '\n'
  | 'r' => '\r'
  | 't' => '\t'
  | c => c

/-- The body of a string literal up to its closing quote, and what follows that quote. -/
def readLiteral : List Char → Option (List Char × List Char)
  | [] => none
  | '"' :: cs => some ([], cs)
  | ['\\'] => none
  | '\\' :: c :: cs => (readLiteral cs).map fun p => (unescape c :: p.1, p.2)
  | c :: cs => (readLiteral cs).map fun p => (c :: p.1, p.2)

theorem length_of_readLiteral {cs body rest : List Char}
    (h : readLiteral cs = some (body, rest)) : rest.length < cs.length := by
  fun_induction readLiteral cs generalizing body with
  | case1 => simp at h
  | case2 cs => simp_all
  | case3 => simp at h
  | case4 c cs ih =>
    obtain ⟨p, hp, he⟩ := Option.map_eq_some_iff.1 h
    have hlt := @ih p.1 (by rw [hp, ← (Prod.mk.inj he).2])
    simp only [List.length_cons]
    omega
  | case5 c cs _ _ _ ih =>
    obtain ⟨p, hp, he⟩ := Option.map_eq_some_iff.1 h
    have hlt := @ih p.1 (by rw [hp, ← (Prod.mk.inj he).2])
    simp only [List.length_cons]
    omega

/-- Does the text end here, or go on with a character that may follow a number? -/
def atDelimiter : List Char → Bool
  | [] => true
  | c :: _ => isDelimiter c

/-- A datum other than a list off the front of a text that starts with no blank. -/
def takeAtom (cs : List Char) : Option (Datum × List Char) :=
  match Number.takeNumeral cs with
  | some (numeral, rest) =>
    if atDelimiter rest then (Number.parse numeral).map fun x => (.number x, rest) else none
  | none =>
    match cs with
    | '"' :: rest => (readLiteral rest).map fun p => (.text (String.ofList p.1), p.2)
    | c :: rest =>
      if isSymbolChar c && !c.isDigit then
        some (.symbol (String.ofList (c :: rest.takeWhile isSymbolChar)),
          rest.dropWhile isSymbolChar)
      else none
    | [] => none

/-- What a reading step took off a text, and the shorter rest. -/
abbrev Taken (α : Type) (cs : List Char) := { p : α × List Char // p.2.length < cs.length }

theorem length_of_takeAtom {cs rest : List Char} {d : Datum}
    (h : takeAtom cs = some (d, rest)) : rest.length < cs.length := by
  unfold takeAtom at h
  split at h
  · next numeral tail hn =>
    split at h
    · obtain ⟨x, _, he⟩ := Option.map_eq_some_iff.1 h
      rw [← (Prod.mk.inj he).2]
      exact Number.length_of_takeNumeral hn
    · simp at h
  · split at h
    · obtain ⟨p, hp, he⟩ := Option.map_eq_some_iff.1 h
      have hlt := @length_of_readLiteral _ p.1 p.2 hp
      rw [← (Prod.mk.inj he).2, List.length_cons]
      omega
    · next c tail _ _ =>
      split at h
      · simp only [Option.some.injEq, Prod.mk.injEq] at h
        have hle := Text.length_dropWhile_le isSymbolChar tail
        rw [← h.2, List.length_cons]
        omega
      · simp at h
    · simp at h

/-- The atom at the front, with the fact that some text was used up. -/
def takeAtom? (cs : List Char) : Option (Taken Datum cs) :=
  match h : takeAtom cs with
  | some (d, rest) => some ⟨(d, rest), length_of_takeAtom h⟩
  | none => none

theorem length_of_cons {cs rest after : List Char} {c : Char} (hlt : rest.length < cs.length)
    (h : after.length < (c :: rest).length) : after.length < cs.length := by
  rw [List.length_cons] at h
  omega

/-- The data before a closing bracket, with that bracket used up too. -/
def takeItems? (closer : Char) (cs : List Char) : Option (Taken (List Datum) cs) :=
  match h : skipBlanks cs with
  | [] => none
  | c :: rest =>
    have hlt := length_of_skipBlanks h
    if c = closer then some ⟨([], rest), hlt⟩
    else
      match closerOf c with
      | some inner =>
        match takeItems? inner rest with
        | none => none
        | some ⟨(items, after), ha⟩ =>
          have hlt' : after.length < cs.length := Nat.lt_trans ha hlt
          match takeItems? closer after with
          | none => none
          | some ⟨(more, after'), hb⟩ =>
            some ⟨(.list items :: more, after'), Nat.lt_trans hb hlt'⟩
      | none =>
        match takeAtom? (c :: rest) with
        | none => none
        | some ⟨(d, after), ha⟩ =>
          have hlt' := length_of_cons hlt ha
          match takeItems? closer after with
          | none => none
          | some ⟨(more, after'), hb⟩ => some ⟨(d :: more, after'), Nat.lt_trans hb hlt'⟩
termination_by cs.length

/-- The datum at the front of a text, after blanks. -/
def takeDatum? (cs : List Char) : Option (Taken Datum cs) :=
  match h : skipBlanks cs with
  | [] => none
  | c :: rest =>
    have hlt := length_of_skipBlanks h
    match closerOf c with
    | some closer =>
      match takeItems? closer rest with
      | none => none
      | some ⟨(items, after), ha⟩ => some ⟨(.list items, after), Nat.lt_trans ha hlt⟩
    | none =>
      match takeAtom? (c :: rest) with
      | none => none
      | some ⟨(d, after), ha⟩ => some ⟨(d, after), length_of_cons hlt ha⟩

/-- The datum at the front of a text and what follows it. -/
def takeDatum (cs : List Char) : Option (Datum × List Char) :=
  (takeDatum? cs).map (·.1)

theorem length_of_takeDatum {cs rest : List Char} {d : Datum}
    (h : takeDatum cs = some (d, rest)) : rest.length < cs.length := by
  obtain ⟨⟨p, hp⟩, _, rfl⟩ := Option.map_eq_some_iff.1 h
  exact hp

/-- The next datum and what follows it, or `none` at the end of the text. -/
def read (cs : List Char) : Except ParseError (Option (Datum × List Char)) :=
  match skipBlanks cs with
  | [] => .ok none
  | c :: rest =>
    match balance (c :: rest) with
    | .incomplete => .error .incomplete
    | .stray => .error .strayCloser
    | .mismatched expected found => .error (.wrongCloser expected found)
    | .balanced =>
      match takeDatum (c :: rest) with
      | some p => .ok (some p)
      | none => .error (.unreadable (String.ofList (Text.excerpt 20 (c :: rest))))

theorem length_of_read {cs rest : List Char} {d : Datum}
    (h : read cs = .ok (some (d, rest))) : rest.length < cs.length := by
  have hle := length_skipBlanks_le cs
  unfold read at h
  split at h
  · simp at h
  · next c tail hs =>
    rw [hs] at hle
    split at h
    · simp at h
    · simp at h
    · simp at h
    · split at h
      · next p hp =>
        simp only [Except.ok.injEq, Option.some.injEq] at h
        subst h
        exact Nat.lt_of_lt_of_le (length_of_takeDatum hp) hle
      · simp at h

/-- All data of a text. -/
def readAll (cs : List Char) : Except ParseError (List Datum) :=
  match _h : read cs with
  | .error e => .error e
  | .ok none => .ok []
  | .ok (some (d, rest)) =>
    match readAll rest with
    | .error e => .error e
    | .ok ds => .ok (d :: ds)
termination_by cs.length
decreasing_by exact length_of_read _h

end ArrowLisp
