import ArrowLisp.Proofs.ReadSequence

/-!
# Texts made of whole words

Outside literals and comments a text falls into words. If every word is a number or a symbol from
its first to its last character, then nothing but the brackets can keep the text from being read:
no number is cut short, no delimiter is missing, and no place is left at which no datum starts.
-/

namespace ArrowLisp

/-- The characters of words: all but blanks, commas, brackets, quotes and semicolons. -/
def isWordChar (c : Char) : Bool :=
  isPlain c && !isLayout c

/-- A word between what stands before and after it: a run of word characters outside literals and
comments that cannot be made longer. -/
structure IsWord (before word after : List Char) : Prop where
  outside : regionAfter before = .code
  ne : word ≠ []
  chars : ∀ c ∈ word, isWordChar c = true
  starts : ∀ c ∈ before.getLast?, isWordChar c = false
  ends : ∀ c ∈ after.head?, isWordChar c = false

/-- Symbol characters throughout, and no digit in front, not even after a minus sign. -/
structure IsSymbolWord (word : List Char) : Prop where
  chars : ∀ c ∈ word, isSymbolChar c = true
  no_digit : ∀ c ∈ word.head?, c.isDigit = false
  no_minus_digit : word.head? = some '-' → ∀ c ∈ word.tail.head?, c.isDigit = false

/-- A number that no literal follows at once, or a symbol. -/
def CleanWord (word after : List Char) : Prop :=
  (Number.IsNumeral word ∧ after.head? ≠ some '"') ∨ IsSymbolWord word

/-- Every word of the text is clean. -/
def CleanText (t : List Char) : Prop :=
  ∀ before word after, t = before ++ (word ++ after) → IsWord before word after →
    CleanWord word after

/-! ## Deciding cleanness -/

theorem option_all_not {o : Option Char} {p : Char → Bool} :
    o.all (fun c => !p c) = true ↔ ∀ c ∈ o, p c = false := by
  cases o <;> simp

instance (before word after : List Char) : Decidable (IsWord before word after) :=
  decidable_of_iff
    (regionAfter before = .code ∧ word.isEmpty = false ∧ word.all isWordChar = true ∧
      before.getLast?.all (fun c => !isWordChar c) = true ∧
      after.head?.all (fun c => !isWordChar c) = true)
    ⟨fun ⟨h₁, h₂, h₃, h₄, h₅⟩ => ⟨h₁, List.isEmpty_eq_false_iff.1 h₂, List.all_eq_true.1 h₃,
        option_all_not.1 h₄, option_all_not.1 h₅⟩,
      fun ⟨h₁, h₂, h₃, h₄, h₅⟩ => ⟨h₁, List.isEmpty_eq_false_iff.2 h₂, List.all_eq_true.2 h₃,
        option_all_not.2 h₄, option_all_not.2 h₅⟩⟩

instance (word : List Char) : Decidable (IsSymbolWord word) :=
  decidable_of_iff
    (word.all isSymbolChar = true ∧ word.head?.all (fun c => !c.isDigit) = true ∧
      (word.head? = some '-' → word.tail.head?.all (fun c => !c.isDigit) = true))
    ⟨fun ⟨h₁, h₂, h₃⟩ => ⟨List.all_eq_true.1 h₁, option_all_not.1 h₂,
        fun h => option_all_not.1 (h₃ h)⟩,
      fun ⟨h₁, h₂, h₃⟩ => ⟨List.all_eq_true.2 h₁, option_all_not.2 h₂,
        fun h => option_all_not.2 (h₃ h)⟩⟩

instance (word after : List Char) : Decidable (CleanWord word after) :=
  inferInstanceAs (Decidable (_ ∨ _))

/-- It is enough to look at the cuts of the text. -/
theorem cleanText_iff (t : List Char) :
    CleanText t ↔ ∀ i ≤ t.length, ∀ j ≤ t.length,
      IsWord (t.take i) ((t.drop i).take j) ((t.drop i).drop j) →
        CleanWord ((t.drop i).take j) ((t.drop i).drop j) := by
  constructor
  · intro h i _ j _ hw
    exact h _ _ _ (by rw [List.take_append_drop, List.take_append_drop]) hw
  · intro h before word after ht hw
    have hcut := h before.length (by rw [ht]; simp) word.length (by rw [ht]; simp; omega)
    rw [ht, List.take_left, List.drop_left, List.take_left, List.drop_left] at hcut
    exact hcut hw

instance (t : List Char) : Decidable (CleanText t) :=
  decidable_of_iff _ (cleanText_iff t).symm

/-! ## Words at the front of a text -/

theorem not_word_cases {c : Char} (h : isWordChar c = false) : c ∈ marks ∨ isLayout c = true := by
  simp only [isWordChar, Bool.and_eq_false_iff, Bool.not_eq_false'] at h
  exact h.imp_left mem_marks_of_not_plain

/-- What ends a word ends a number, the quote apart. -/
theorem isDelimiter_of_not_word {c : Char} (h : isWordChar c = false) (hq : c ≠ '"') :
    isDelimiter c = true := by
  rcases not_word_cases h with hm | hl
  · simp only [marks, List.mem_cons, List.not_mem_nil, or_false] at hm
    rcases hm with rfl | rfl | rfl | rfl | rfl | rfl | rfl | rfl
    · exact absurd rfl hq
    all_goals decide
  · rcases isLayout_iff.1 hl with rfl | rfl | rfl | rfl | rfl <;> decide

/-- A class of characters is one of word characters if it holds neither marks nor blanks. -/
theorem isWordChar_of_class {p : Char → Bool} (hm : marks.all (fun d => !p d) = true)
    (hl : [' ', '\t', '\r', '\n', ','].all (fun d => !p d) = true) {c : Char} (h : p c = true) :
    isWordChar c = true := by
  cases hc : isWordChar c with
  | true => rfl
  | false =>
      have hp : p c = false := by
        rcases not_word_cases hc with hc | hc
        · exact Number.not_of_all hm hc
        · exact Number.not_of_all hl (by simpa using isLayout_iff.1 hc)
      rw [hp] at h
      cases h

theorem endsNumeral_of_not_word {after : List Char} (h : ∀ c ∈ after.head?, isWordChar c = false) :
    Number.EndsNumeral after := by
  intro c hc
  cases hn : Number.isNumeralChar c with
  | false => rfl
  | true =>
      have hw := isWordChar_of_class (p := Number.isNumeralChar) (by decide) (by decide) hn
      rw [h c hc] at hw
      cases hw

theorem atDelimiter_of_not_word {after : List Char} (h : ∀ c ∈ after.head?, isWordChar c = false)
    (hq : after.head? ≠ some '"') : atDelimiter after = true := by
  cases after with
  | nil => rfl
  | cons c after =>
      exact isDelimiter_of_not_word (h c rfl) (fun hc => hq (by rw [hc]; rfl))

/-- A symbol word is no numeral, whatever ends it. -/
theorem takeNumeral_symbolWord {word after : List Char} (hw : IsSymbolWord word) (hne : word ≠ [])
    (ha : ∀ c ∈ after.head?, isWordChar c = false) : Number.takeNumeral (word ++ after) = none := by
  have hpoint : ∀ c ∈ word, c ≠ '.' := by
    rintro c hc rfl
    cases hw.chars _ hc
  have hafter : ∀ c ∈ after.head?, c.isDigit = false ∧ c ≠ '.' := by
    intro c hc
    have hn := endsNumeral_of_not_word ha c hc
    simp only [Number.isNumeralChar, Bool.or_eq_false_iff, decide_eq_false_iff_not] at hn
    exact ⟨hn.1.1.1.1.1, hn.1.1.1.1.2⟩
  cases word with
  | nil => exact absurd rfl hne
  | cons c word =>
      apply Number.takeNumeral_none
      · intro d hd
        obtain rfl : c = d := by simpa using hd
        exact ⟨hw.no_digit c rfl, hpoint c List.mem_cons_self⟩
      · intro tail htail d hd
        obtain ⟨rfl, rfl⟩ := List.cons.inj htail
        cases word with
        | nil => exact hafter d hd
        | cons e word =>
            obtain rfl : e = d := by simpa using hd
            exact ⟨hw.no_minus_digit rfl e rfl, hpoint e (by simp)⟩

/-- A symbol word is read as one symbol. -/
theorem takeAtom_symbolWord {word after : List Char} (hw : IsSymbolWord word) (hne : word ≠ [])
    (ha : ∀ c ∈ after.head?, isWordChar c = false) :
    takeAtom (word ++ after) = some (.symbol (String.ofList word), after) := by
  have hn := takeNumeral_symbolWord hw hne ha
  have hend : ∀ d ∈ after.head?, isSymbolChar d = false := by
    intro d hd
    cases hs : isSymbolChar d with
    | false => rfl
    | true =>
        have := isWordChar_of_class (p := isSymbolChar) (by decide) (by decide) hs
        rw [ha d hd] at this
        cases this
  cases word with
  | nil => exact absurd rfl hne
  | cons c word => exact takeAtom_symbol hn (hw.no_digit c rfl) hw.chars hend

/-- A clean word is read as one atom. -/
theorem takeAtom_cleanWord {word after : List Char} (hclean : CleanWord word after)
    (hne : word ≠ []) (ha : ∀ c ∈ after.head?, isWordChar c = false) :
    ∃ d, takeAtom (word ++ after) = some (d, after) := by
  rcases hclean with ⟨⟨n, rfl⟩, hq⟩ | hw
  · exact ⟨_, takeAtom_number n (atDelimiter_of_not_word ha hq)⟩
  · exact ⟨_, takeAtom_symbolWord hw hne ha⟩

/-- Nothing of an atom is a blank, a comment or an opening bracket. -/
theorem takeDatum_of_takeAtom {cs : List Char} {p : Datum × List Char}
    (h : takeAtom cs = some p) : takeDatum cs = some p := by
  have head : ∃ c tail, cs = c :: tail ∧ (c = '"' ∨ isWordChar c = true) := by
    rcases takeAtom_cases h with ⟨n, hcs, -⟩ | ⟨tail, _, rfl, -⟩ | ⟨c, tail, rfl, -, hc, -⟩
    · cases ht : n.text with
      | nil =>
          rw [hcs, ht, List.nil_append] at h
          exact absurd (length_of_takeAtom h) (Nat.lt_irrefl _)
      | cons c tail =>
          refine ⟨c, tail ++ p.2, by rw [hcs, ht, List.cons_append], Or.inr ?_⟩
          have hc := n.numeralChar c (by rw [ht]; exact List.mem_cons_self)
          exact isWordChar_of_class (by decide) (by decide) hc
    · exact ⟨'"', tail, rfl, Or.inl rfl⟩
    · exact ⟨c, tail, rfl, Or.inr (isWordChar_of_class (by decide) (by decide) hc)⟩
  obtain ⟨c, tail, rfl, hc⟩ := head
  have hkinds : c ≠ ';' ∧ isLayout c = false ∧ closerOf c = none := by
    rcases hc with rfl | hc
    · decide
    · simp only [isWordChar, isPlain, Bool.and_eq_true, Bool.not_eq_true'] at hc
      simp_all
  obtain ⟨hs, hl, ho⟩ := hkinds
  rw [takeDatum_cons (skipBlanks_stop hs hl tail), ho, h]

/-! ## Cutting a clean text -/

theorem regionAfter_append {p : List Char} (h : regionAfter p = .code) (q : List Char) :
    regionAfter (p ++ q) = regionAfter q := by
  have hp : p.foldl Region.next .code = .code := h
  rw [regionAfter, List.foldl_append, hp]
  rfl

/-- A clean text may be cut in code between two words. -/
theorem CleanText.drop {p u : List Char} (h : CleanText (p ++ u)) (hp : regionAfter p = .code)
    (hcut : (∀ c ∈ p.getLast?, isWordChar c = false) ∨ ∀ c ∈ u.head?, isWordChar c = false) :
    CleanText u := by
  intro before word after hu hw
  refine h (p ++ before) word after (by rw [hu, List.append_assoc]) ?_
  refine ⟨?_, hw.ne, hw.chars, ?_, hw.ends⟩
  · rw [regionAfter_append hp]
    exact hw.outside
  · cases hb : before.getLast? with
    | some c =>
        intro d hd
        rw [List.getLast?_append, hb] at hd
        obtain rfl : c = d := by simpa using hd
        exact hw.starts c hb
    | none =>
        -- The word stands at the cut, so the cut is not one before other characters.
        obtain rfl : before = [] := List.getLast?_eq_none_iff.1 hb
        rw [List.append_nil]
        rcases hcut with hlast | hhead
        · exact hlast
        · cases word with
          | nil => exact absurd rfl hw.ne
          | cons c word =>
              have hc := hw.chars c List.mem_cons_self
              rw [hhead c (by rw [hu]; rfl)] at hc
              cases hc

/-- A clean text may be cut after a bracket. -/
theorem CleanText.tail {c : Char} {u : List Char} (h : CleanText (c :: u))
    (hr : regionAfter [c] = .code) (hc : isWordChar c = false) : CleanText u := by
  refine CleanText.drop (p := [c]) h hr (Or.inl ?_)
  intro d hd
  obtain rfl : c = d := by simpa using hd
  exact hc

theorem CleanText.skipBlanks {u tail : List Char} {c : Char} (h : CleanText u)
    (hskip : skipBlanks u = c :: tail) : CleanText (c :: tail) := by
  obtain ⟨p, rfl, hp⟩ := skipBlanks_filler hskip
  refine h.drop hp.neutral.regionAfter (Or.inl ?_)
  intro d hd
  simp [isWordChar, hp.last d hd]

/-! ## Reading a clean text -/

/-- A literal without an end leaves the text incomplete. -/
theorem scanBalance_literal {cs : List Char} (h : readLiteral cs = none) (owed : List Char) :
    scanBalance (.literal false) owed cs = .incomplete := by
  fun_induction readLiteral cs with
  | case1 => cases owed <;> rfl
  | case2 cs => cases h
  | case3 => cases owed <;> rfl
  | case4 c cs ih =>
      have ih' := ih (Option.map_eq_none_iff.1 h)
      rw [scanBalance_cons]
      change scanBalance (.literal true) owed (c :: cs) = _
      rw [scanBalance_cons]
      exact ih'
  | case5 c cs hquote _ hescape ih =>
      have hq : c ≠ '"' := fun hc => hquote hc
      have ih' := ih (Option.map_eq_none_iff.1 h)
      rw [scanBalance_cons]
      by_cases hb : c = '\\'
      · subst hb
        cases cs with
        | nil => cases owed <;> rfl
        | cons d cs => exact absurd rfl (hescape d cs rfl)
      · simpa [ScanState.step, Region.next, hq, hb] using ih'

theorem takeAtom_clean_literal {tail owed : List Char} (hclean : CleanText ('"' :: tail))
    (hb : scanBalance .code owed ('"' :: tail) = .balanced) :
    ∃ d rest, takeAtom ('"' :: tail) = some (d, rest) ∧ CleanText rest := by
  cases hread : readLiteral tail with
  | none =>
      rw [scanBalance_cons] at hb
      change scanBalance (.literal false) owed tail = .balanced at hb
      rw [scanBalance_literal hread owed] at hb
      cases hb
  | some p =>
      obtain ⟨body, rest⟩ := p
      obtain ⟨q, rfl, hrun⟩ := readLiteral_split hread
      refine ⟨.text (String.ofList body), rest, takeAtom_literal hread, ?_⟩
      have hsplit : '"' :: (q ++ '"' :: rest) = ('"' :: q ++ ['"']) ++ rest := by simp
      rw [hsplit] at hclean
      refine hclean.drop (neutral_literal hrun).regionAfter (Or.inl ?_)
      intro e he
      obtain rfl : '"' = e := by
        rw [List.getLast?_append_of_ne_nil _ (by simp)] at he
        simpa using he
      decide

/-- The word at the front of a text, up to the first character that is none of a word. -/
theorem isWord_takeWhile {c : Char} (hc : isWordChar c = true) (tail : List Char) :
    IsWord [] ((c :: tail).takeWhile isWordChar) ((c :: tail).dropWhile isWordChar) where
  outside := rfl
  ne := by
    rw [List.takeWhile_cons_of_pos hc]
    exact List.cons_ne_nil _ _
  chars := fun _ hd => List.mem_takeWhile_imp hd
  starts := by simp
  ends := by
    intro d hd
    have := List.head?_dropWhile_not isWordChar (c :: tail)
    rw [show ((c :: tail).dropWhile isWordChar).head? = some d from hd] at this
    exact this

theorem takeAtom_clean_word {c : Char} {tail : List Char} (hclean : CleanText (c :: tail))
    (hc : isWordChar c = true) :
    ∃ d rest, takeAtom (c :: tail) = some (d, rest) ∧ CleanText rest := by
  have hword := isWord_takeWhile hc tail
  have hsplit := List.takeWhile_append_dropWhile (p := isWordChar) (l := c :: tail)
  generalize (c :: tail).takeWhile isWordChar = word at hword hsplit
  generalize (c :: tail).dropWhile isWordChar = after at hword hsplit
  rw [← hsplit] at hclean ⊢
  obtain ⟨d, hd⟩ := takeAtom_cleanWord (hclean [] word after rfl hword) hword.ne hword.ends
  refine ⟨d, after, hd, ?_⟩
  have hplain : ∀ e ∈ word, isPlain e = true := by
    intro e he
    have := hword.chars e he
    simp only [isWordChar, Bool.and_eq_true] at this
    exact this.1
  exact hclean.drop (neutral_plain hplain).regionAfter (Or.inr hword.ends)

/-- An atom at the front of a clean text is read up to a place where the text is clean again. -/
theorem takeAtom_clean {c : Char} {tail owed : List Char} (hclean : CleanText (c :: tail))
    (hs : c ≠ ';') (hl : isLayout c = false) (ho : closerOf c = none) (hk : isCloser c = false)
    (hb : scanBalance .code owed (c :: tail) = .balanced) :
    ∃ d rest, takeAtom (c :: tail) = some (d, rest) ∧ CleanText rest := by
  by_cases hq : c = '"'
  · subst hq
    exact takeAtom_clean_literal hclean hb
  · exact takeAtom_clean_word hclean (by simp [isWordChar, isPlain, hq, hs, ho, hk, hl])

theorem scanBalance_stray {c expected : Char} (hk : isCloser c = true) (he : c ≠ expected)
    (owed cs : List Char) :
    scanBalance .code [] (c :: cs) = .stray ∧
      scanBalance .code (expected :: owed) (c :: cs) = .mismatched expected c := by
  have ho : closerOf c = none := by
    simp only [isCloser, Bool.or_eq_true, decide_eq_true_eq] at hk
    rcases hk with (rfl | rfl) | rfl <;> rfl
  rw [scanBalance_cons, scanBalance_cons]
  simp [ScanState.step, owedAfter, ho, hk, he.symm, Except.map]

/-- The closing brackets that a scan can owe. -/
def OwedCloser (closer : Char) : Prop :=
  ∃ c, closerOf c = some closer

theorem not_word_closer {closer : Char} (h : OwedCloser closer) :
    isWordChar closer = false ∧ regionAfter [closer] = .code := by
  obtain ⟨c, hc⟩ := h
  rcases closer_cases hc with rfl | rfl | rfl <;> decide

theorem not_word_opener {c closer : Char} (h : closerOf c = some closer) :
    isWordChar c = false ∧ regionAfter [c] = .code := by
  unfold closerOf at h
  split at h
  · decide
  · decide
  · decide
  · cases h

/-- From this text a datum can be read, whatever is owed, and a clean text is left. -/
def TakesDatum (u : List Char) : Prop :=
  ∀ {c tail owed}, skipBlanks u = c :: tail → isCloser c = false →
    scanBalance .code owed u = .balanced → ∃ d rest, takeDatum u = some (d, rest) ∧ CleanText rest

/-- From this text items can be read up to the bracket that is owed, and a clean text is left. -/
def TakesItems (u : List Char) : Prop :=
  ∀ {closer owed}, OwedCloser closer → scanBalance .code (closer :: owed) u = .balanced →
    ∃ items rest, takeItems closer u = some (items, rest) ∧ CleanText rest

section Taking

variable {u : List Char} (hclean : CleanText u)
  (ih : ∀ v : List Char, v.length < u.length → CleanText v → TakesItems v)
include hclean ih

theorem takesDatum_of_shorter : TakesDatum u := by
  intro c tail owed hskip hk hb
  have hcut := hclean.skipBlanks hskip
  rw [← scanBalance_skipBlanks, hskip] at hb
  rw [takeDatum_cons hskip]
  cases ho : closerOf c with
  | some closer =>
      have hnw := not_word_opener ho
      rw [scanBalance_cons, step_opener ho] at hb
      obtain ⟨items, rest, hitems, hrest⟩ :=
        ih tail (length_of_skipBlanks hskip) (hcut.tail hnw.2 hnw.1) ⟨c, ho⟩ hb
      exact ⟨.list items, rest, by simp [hitems], hrest⟩
  | none =>
      obtain ⟨hs, hl⟩ := skipBlanks_head hskip
      exact takeAtom_clean hcut hs hl ho hk hb

theorem takesItems_of_shorter : TakesItems u := by
  intro closer owed hcloser hb
  have hb' := hb
  rw [← scanBalance_skipBlanks] at hb'
  cases hskip : skipBlanks u with
  | nil =>
      rw [hskip] at hb'
      cases hb'
  | cons c tail =>
      rw [hskip] at hb'
      rw [takeItems_cons hskip]
      by_cases hc : c = closer
      · subst hc
        have hnw := not_word_closer hcloser
        exact ⟨[], tail, by rw [if_pos rfl], (hclean.skipBlanks hskip).tail hnw.2 hnw.1⟩
      · cases hk : isCloser c with
        | true =>
            rw [(scanBalance_stray hk hc owed tail).2] at hb'
            cases hb'
        | false =>
            obtain ⟨d, mid, hd, hmid⟩ := takesDatum_of_shorter hclean ih hskip hk hb
            obtain ⟨p, hp, hneutral⟩ := taking_neutral.1 u d mid hd
            rw [hp, hneutral.scanBalance] at hb
            obtain ⟨items, rest, hitems, hrest⟩ :=
              ih mid (length_of_takeDatum hd) hmid hcloser hb
            exact ⟨d :: items, rest, by simp [hc, hd, hitems], hrest⟩

end Taking

theorem takesItems_clean (u : List Char) (hclean : CleanText u) : TakesItems u :=
  takesItems_of_shorter hclean fun v _ hv => takesItems_clean v hv
termination_by u.length

theorem takesDatum_clean (u : List Char) (hclean : CleanText u) : TakesDatum u :=
  takesDatum_of_shorter hclean fun v _ hv => takesItems_clean v hv

/-- A clean balanced text is read to its end. -/
theorem readAll_clean (t : List Char) (hclean : CleanText t) (hb : balance t = .balanced) :
    ∃ ds, readAll t = .ok ds := by
  cases hskip : skipBlanks t with
  | nil => exact ⟨[], readAll_of_none (read_nil hskip)⟩
  | cons c tail =>
      have hk : isCloser c = false := by
        cases hk : isCloser c with
        | false => rfl
        | true =>
            have hb' := balance_skipBlanks t
            rw [hb, hskip] at hb'
            have he : c ≠ '"' := by rintro rfl; cases hk
            rw [balance, (scanBalance_stray hk he [] tail).1] at hb'
            cases hb'
      obtain ⟨d, rest, hd, hrest⟩ := takesDatum_clean t hclean hskip hk hb
      have hread := read_of_takeDatum hb hd
      have hlt := length_of_read hread
      obtain ⟨ds, hds⟩ := readAll_clean rest hrest (balance_rest hread)
      exact ⟨d :: ds, by rw [readAll_of_some hread, hds]; rfl⟩
termination_by t.length

/-- Only a balanced text is read to its end. -/
theorem balance_of_readAll {t : List Char} {ds : List Datum} (h : readAll t = .ok ds) :
    balance t = .balanced := by
  cases hread : read t with
  | error e =>
      rw [readAll_of_error hread] at h
      cases h
  | ok r =>
      cases r with
      | none => rw [← balance_skipBlanks, skipBlanks_of_read_none hread]; rfl
      | some p => exact (read_eq_some hread).1

/-- For a text made of whole words the bracket check decides whether it can be read. -/
theorem readAll_ok_iff_balanced (t : List Char) (hclean : CleanText t) :
    (∃ ds, readAll t = .ok ds) ↔ balance t = .balanced :=
  ⟨fun ⟨_, h⟩ => balance_of_readAll h, readAll_clean t hclean⟩

/-- Two kinds of brackets, an escaped quote, a lone minus sign, and a comment that is not clean. -/
theorem readAll_ok_nested :
    CleanText "(f [-1.5e3] \"a\\\";\")- ;)1x".toList ∧
      ∃ ds, readAll "(f [-1.5e3] \"a\\\";\")- ;)1x".toList = .ok ds := by
  have hclean : CleanText "(f [-1.5e3] \"a\\\";\")- ;)1x".toList := by decide +kernel
  exact ⟨hclean, (readAll_ok_iff_balanced _ hclean).2 (by decide)⟩

end ArrowLisp
