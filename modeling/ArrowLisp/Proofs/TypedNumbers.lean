import ArrowLisp.Proofs.ConsoleUse
import ArrowLisp.Proofs.Taking

/-!
# Numbers in programs and typed numbers

A number reaches a program in two ways, as a numeral that the reader takes off the text of the
program and as a line that the program asks for. The line may have blanks around the number, and its
grammar allows more: a plus sign, and words for the infinite and the undefined number. Every numeral
is in that grammar and writes the same number there, so what the recogniser takes is never refused,
and a line with a numeral on it is the number that the reader makes of the numeral.
-/

namespace ArrowLisp

namespace Number

/-- The words for numbers without digits, in lower case. -/
def numberWords : List String :=
  ["inf", "infinity", "nan"]

/-- `[+-]?((D+(.D*)?|.D+)([eE][+-]?D+)?|inf|infinity|nan)`, where the words may be in any case. -/
inductive TypedNumber : List Char → Prop
  | digits (sign : Option Char) (n : Numeral) : (∀ c ∈ sign, c = '+' ∨ c = '-') →
      TypedNumber (sign.toList ++ n.unsignedText)
  | word (sign : Option Char) {cs : List Char} : (∀ c ∈ sign, c = '+' ∨ c = '-') →
      String.ofList (cs.map Char.toLower) ∈ numberWords → TypedNumber (sign.toList ++ cs)

/-! ## The parser accepts the grammar and nothing else -/

theorem parseExponent_split {cs : List Char} {e : Int} (h : parseExponent cs = some e) :
    cs = [] ∨ ∃ x : Exponent, x.text = cs := by
  cases cs with
  | nil => exact Or.inl rfl
  | cons c cs =>
      obtain ⟨sign, hsign, -, hcs⟩ := takeSign_split cs
      by_cases hletter : c = 'e' ∨ c = 'E'
      · simp only [parseExponent, if_pos hletter] at h
        split at h
        · cases h
        · next hdigits =>
          simp only [Bool.or_eq_true, List.isEmpty_iff, Bool.not_eq_true', not_or,
            Bool.not_eq_false] at hdigits
          have hdigit : ∀ d ∈ (takeSign cs).2, d.isDigit = true := List.all_eq_true.1 hdigits.2
          refine Or.inr ⟨⟨c, sign, (takeSign cs).2, hletter, hsign, hdigit, hdigits.1⟩, ?_⟩
          rw [Exponent.text, ← hcs]
      · simp only [parseExponent, if_neg hletter] at h
        cases h

/-- Digits with an optional point, before an exponent or the end of the text. -/
theorem exists_unsignedText (fraction : Option (List Char)) {whole tail : List Char} {e : Int}
    (hwhole : ∀ c ∈ whole, c.isDigit = true) (hfraction : ∀ c ∈ fraction.getD [], c.isDigit = true)
    (hne : whole ≠ [] ∨ fraction.getD [] ≠ []) (htail : parseExponent tail = some e) :
    ∃ n : Numeral, n.unsignedText = whole ++ (fraction.map ('.' :: ·)).getD [] ++ tail := by
  rcases parseExponent_split htail with rfl | ⟨x, rfl⟩
  · exact ⟨⟨false, whole, fraction, none, hwhole, hfraction, hne⟩, rfl⟩
  · exact ⟨⟨false, whole, fraction, some x, hwhole, hfraction, hne⟩, rfl⟩

theorem parseUnsigned_split {cs : List Char} {d : Decimal} (h : parseUnsigned cs = some d) :
    ∃ n : Numeral, n.unsignedText = cs := by
  have hcs := List.takeWhile_append_dropWhile (p := Char.isDigit) (l := cs)
  have hwhole := takeWhile_digit cs
  unfold parseUnsigned at h
  split at h
  · next fraction tail hmatch =>
    dsimp only at h
    split at h
    · cases h
    · next hne =>
      obtain ⟨e, htail, -⟩ := Option.map_eq_some_iff.1 h
      simp only [Bool.and_eq_true, List.isEmpty_iff, not_and_or] at hne
      split at hmatch
      · next rest hdrop =>
        obtain ⟨rfl, rfl⟩ := Prod.mk.inj hmatch
        obtain ⟨n, hn⟩ := exists_unsignedText (some _) hwhole (takeWhile_digit rest) hne htail
        refine ⟨n, ?_⟩
        rw [hn, List.append_assoc]
        show _ ++ '.' :: (rest.takeWhile Char.isDigit ++ rest.dropWhile Char.isDigit) = cs
        rw [List.takeWhile_append_dropWhile, ← hdrop, hcs]
      · next rest _ =>
        obtain ⟨rfl, rfl⟩ := Prod.mk.inj hmatch
        obtain ⟨n, hn⟩ := exists_unsignedText none hwhole (by simp) (by simpa using hne) htail
        refine ⟨n, ?_⟩
        rw [hn, Option.map_none, Option.getD_none, List.append_nil, hcs]

theorem isSome_parseWord {negative : Bool} {cs : List Char} :
    (parseWord negative cs).isSome = true ↔
      String.ofList (cs.map Char.toLower) ∈ numberWords := by
  simp only [parseWord, numberWords, List.mem_cons, List.not_mem_nil, or_false, ← or_assoc]
  split_ifs with hinfinite hundefined
  · exact iff_of_true rfl (Or.inl hinfinite)
  · exact iff_of_true rfl (Or.inr hundefined)
  · exact iff_of_false (by simp) (not_or.2 ⟨hinfinite, hundefined⟩)

theorem isSome_parseMagnitude {negative : Bool} {cs : List Char} :
    (parseMagnitude negative cs).isSome = true ↔
      (∃ n : Numeral, n.unsignedText = cs) ∨
        String.ofList (cs.map Char.toLower) ∈ numberWords := by
  unfold parseMagnitude
  cases hparse : parseUnsigned cs with
  | some d => exact iff_of_true rfl (Or.inl (parseUnsigned_split hparse))
  | none =>
      have hno : ¬∃ n : Numeral, n.unsignedText = cs := by
        intro ⟨n, hn⟩
        rw [← hn, parseUnsigned_text] at hparse
        cases hparse
      rw [isSome_parseWord, or_iff_right hno]

/-- A sign is taken off, and what follows is a magnitude. -/
theorem parse_signed {sign : Option Char} (hsign : ∀ c ∈ sign, c = '+' ∨ c = '-') {cs : List Char}
    (hcs : ∀ c ∈ cs.head?, c ≠ '+' ∧ c ≠ '-') :
    parse (sign.toList ++ cs) = parseMagnitude (sign == some '-') cs := by
  cases sign with
  | some c => rcases hsign c rfl with rfl | rfl <;> rfl
  | none =>
      show parse cs = _
      unfold parse
      split
      · exact absurd rfl (hcs _ rfl).1
      · exact absurd rfl (hcs _ rfl).2
      · rfl

theorem parse_cases (cs : List Char) :
    ∃ sign body, (∀ c ∈ sign, c = '+' ∨ c = '-') ∧ cs = sign.toList ++ body ∧
      parse cs = parseMagnitude (sign == some '-') body := by
  unfold parse
  split
  · next body => exact ⟨some '+', body, by simp, rfl, rfl⟩
  · next body => exact ⟨some '-', body, by simp, rfl, rfl⟩
  · exact ⟨none, cs, by simp, rfl, rfl⟩

theorem numberWord_head {cs : List Char}
    (h : String.ofList (cs.map Char.toLower) ∈ numberWords) :
    ∀ c ∈ cs.head?, c ≠ '+' ∧ c ≠ '-' := by
  intro c hc
  obtain ⟨rest, rfl⟩ := List.head?_eq_some_iff.1 hc
  have hletter : c.toLower = 'i' ∨ c.toLower = 'n' := by
    simp only [numberWords, List.mem_cons, List.not_mem_nil, or_false] at h
    rcases h with h | h | h <;> have hlist := congrArg String.toList h <;>
      simp only [List.map_cons, String.toList_ofList] at hlist
    · exact Or.inl (List.cons.inj hlist).1
    · exact Or.inl (List.cons.inj hlist).1
    · exact Or.inr (List.cons.inj hlist).1
  constructor <;> rintro rfl <;> revert hletter <;> decide

theorem unsignedText_head_not_sign (n : Numeral) :
    ∀ c ∈ n.unsignedText.head?, c ≠ '+' ∧ c ≠ '-' := by
  intro c hc
  obtain ⟨tail, htail⟩ := List.head?_eq_some_iff.1 hc
  exact (unsignedText_head_ne n htail).symm

/-- A typed number is accepted exactly if it is in the grammar. -/
theorem isSome_parse_iff (cs : List Char) : (parse cs).isSome = true ↔ TypedNumber cs := by
  constructor
  · intro h
    obtain ⟨sign, body, hsign, rfl, hparse⟩ := parse_cases cs
    rw [hparse, isSome_parseMagnitude] at h
    rcases h with ⟨n, rfl⟩ | hword
    · exact .digits sign n hsign
    · exact .word sign hsign hword
  · intro h
    cases h with
    | digits sign n hsign =>
        rw [parse_signed hsign (unsignedText_head_not_sign n), isSome_parseMagnitude]
        exact Or.inl ⟨n, rfl⟩
    | word sign hsign hword =>
        rw [parse_signed hsign (numberWord_head hword), isSome_parseMagnitude]
        exact Or.inr hword

/-- Every numeral is in the grammar of typed numbers. -/
theorem Numeral.typedNumber (n : Numeral) : TypedNumber n.text := by
  cases hn : n.negative with
  | true =>
      have h := TypedNumber.digits (some '-') n (by simp)
      simpa [Numeral.text, hn] using h
  | false =>
      have h := TypedNumber.digits none n (by simp)
      simpa [Numeral.text, hn] using h

end Number

/-! ## Lines with a number on them -/

theorem isBlank_of_numeralChar {c : Char} (h : Number.isNumeralChar c = true) :
    Text.isBlank c = false := by
  cases hblank : Text.isBlank c with
  | false => rfl
  | true =>
      rw [Number.not_numeralChar_of_class (p := Text.isBlank) (by decide) hblank] at h
      cases h

/-- Blanks around a text without blanks are trimmed off. -/
theorem trim_padded {before text after : List Char} (hbefore : Text.allBlank before = true)
    (hafter : Text.allBlank after = true) (hne : text ≠ [])
    (htext : ∀ c ∈ text, Text.isBlank c = false) : Text.trim (before ++ text ++ after) = text := by
  have hfront : ((before ++ (text ++ after)).dropWhile Text.isBlank) = text ++ after := by
    refine (Number.span_append (List.all_eq_true.1 hbefore) fun c hc => ?_).2
    rw [List.head?_append_of_ne_nil _ hne] at hc
    exact htext c (List.mem_of_mem_head? hc)
  have hback : (after.reverse ++ text.reverse).dropWhile Text.isBlank = text.reverse := by
    refine (Number.span_append (fun c hc => ?_) fun c hc => ?_).2
    · exact List.all_eq_true.1 hafter c (List.mem_reverse.1 hc)
    · exact htext c (List.mem_reverse.1 (List.mem_of_mem_head? hc))
  rw [Text.trim, List.append_assoc, hfront, List.reverse_append, hback, List.reverse_reverse]

/-- A line with a numeral and blanks on it stands for the number that the numeral writes. -/
theorem numberAnswer_numeral (n : Number.Numeral) {before after : List Char}
    (hbefore : Text.allBlank before = true) (hafter : Text.allBlank after = true) :
    numberAnswer (String.ofList (before ++ n.text ++ after)) = .ok (.number n.value) := by
  have hne : n.text ≠ [] := by
    intro hnil
    have hsome := Number.takeNumeral_text_ne_none n []
    rw [hnil] at hsome
    exact hsome rfl
  have hplain : ∀ c ∈ n.text, Text.isBlank c = false :=
    fun c hc => isBlank_of_numeralChar (n.numeralChar c hc)
  rw [numberAnswer, String.toList_ofList, trim_padded hbefore hafter hne hplain, Number.parse_text]

/-- What a program gets that asks for a number. -/
theorem apply_readNumber {σ : Type} [Console σ] {s s' : σ} {line : String} {v : Value}
    (hline : Prompted s (.ok line) s') (hv : numberAnswer line = .ok v) :
    Primitive.apply "read-num" [] s = some (.ok v, s') := by
  show (Primitive.readNumber [] : Action σ Value) s = _
  rw [readNumber_nil]
  exact Action.bind_eq_ok.2 ⟨line, s', promptLine_eq_ok.2 hline, by rw [hv]; rfl⟩

/-- Numbers in programs and typed numbers agree. The parser of typed numbers accepts exactly its
grammar. All that the recogniser of the reader takes is in that grammar, so it makes a number, and
the reader returns that number if the text goes on as it may. And a program that asks for a number
gets what the reader makes of a text, if that text is on the line with any blanks around it. -/
theorem literals_read_as_typed :
    (∀ cs, (Number.parse cs).isSome = true ↔ Number.TypedNumber cs) ∧
    (∀ cs lexeme rest, Number.takeNumeral cs = some (lexeme, rest) →
      Number.TypedNumber lexeme ∧ ∃ x, Number.parse lexeme = some x ∧
        (atDelimiter rest = true → takeAtom cs = some (.number x, rest))) ∧
    ∀ (p : List Char) (x : Float), takeAtom p = some (.number x, []) →
      ∀ before after : List Char, Text.allBlank before = true → Text.allBlank after = true →
      ∀ (σ : Type) [Console σ] (s s₁ s' : σ), Console.print inputPrompt s = (.ok (), s₁) →
        Console.takeLine s₁ = (.ok (String.ofList (before ++ p ++ after)), s') →
        Primitive.apply "read-num" [] s = some (.ok (.number x), s') := by
  refine ⟨Number.isSome_parse_iff, ?_, ?_⟩
  · intro cs lexeme rest htake
    obtain ⟨n, rfl, rfl⟩ := Number.takeNumeral_split htake
    exact ⟨n.typedNumber, n.value, Number.parse_text n, takeAtom_number n⟩
  · intro p x hp before after hbefore hafter σ _ s s₁ s' hprint hline
    rcases takeAtom_cases hp with ⟨n, hn, -, hx⟩ | ⟨_, _, _, _, hx⟩ | ⟨_, _, _, _, _, _, hx, _⟩
    · cases hx
      rw [List.append_nil] at hn
      subst hn
      exact apply_readNumber (.answered hprint hline) (numberAnswer_numeral n hbefore hafter)
    · cases hx
    · cases hx

/-- A numeral between blanks of several bytes is read off a line as the reader reads it. -/
theorem literal_read_padded :
    ∃ x, takeAtom "-.5e+3".toList = some (.number x, []) ∧
      Primitive.apply "read-num" []
          ({ input := ["\u3000\t-.5e+3\u00a0\r", "x"], output := "" } : Recording) =
        some (.ok (.number x), { input := ["x"], output := "> " }) := by
  obtain ⟨-, hrecognised, htyped⟩ := literals_read_as_typed
  have htake : Number.takeNumeral "-.5e+3".toList = some ("-.5e+3".toList, []) := rfl
  obtain ⟨-, x, -, hread⟩ := hrecognised _ _ _ htake
  refine ⟨x, hread rfl, ?_⟩
  exact htyped _ x (hread rfl) ['\u3000', '\t'] ['\u00a0', '\r'] rfl rfl _ _ _ _ rfl rfl

end ArrowLisp
