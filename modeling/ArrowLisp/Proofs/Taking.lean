import ArrowLisp.Datum.Reader
import ArrowLisp.Proofs.Numerals
import ArrowLisp.Proofs.Scan
import Mathlib.Data.List.Basic

/-!
# What the reader takes off a text

Every reading step takes a front part off the text and leaves the rest as it is. Here each step is
given with the part it takes, and that part is shown to be neutral for the bracket scan. The reader
of lists is opened once: its equations without the length bookkeeping, and one induction over a
successful reading from which the later properties of whole data are derived.
-/

namespace ArrowLisp

/-! ## Blanks and comments -/

/-- The characters skipped between data, comments apart. -/
def isLayout (c : Char) : Bool :=
  c = ' ' || c = '\t' || c = '\r' || c = '\n' || c = ','

theorem isLayout_iff {c : Char} :
    isLayout c = true ↔ c = ' ' ∨ c = '\t' ∨ c = '\r' ∨ c = '\n' ∨ c = ',' := by
  simp [isLayout, or_assoc]

theorem isPlain_of_isLayout {c : Char} (h : isLayout c = true) : isPlain c = true := by
  rcases isLayout_iff.1 h with rfl | rfl | rfl | rfl | rfl <;> decide

@[simp] theorem skipBlanks_nil : skipBlanks [] = [] := by
  rw [skipBlanks]

theorem skipBlanks_layout {c : Char} (h : isLayout c = true) (cs : List Char) :
    skipBlanks (c :: cs) = skipBlanks cs := by
  have hs : c ≠ ';' := by rintro rfl; simp [isLayout] at h
  rw [skipBlanks, if_pos (isLayout_iff.1 h)]
  exact hs

theorem skipBlanks_stop {c : Char} (hs : c ≠ ';') (h : isLayout c = false) (cs : List Char) :
    skipBlanks (c :: cs) = c :: cs := by
  rw [skipBlanks, if_neg]
  · intro hl
    rw [isLayout_iff.2 hl] at h
    cases h
  · exact hs

/-- What is left starts neither with a blank nor with a comment. -/
theorem skipBlanks_head {cs tail : List Char} {c : Char} (h : skipBlanks cs = c :: tail) :
    c ≠ ';' ∧ isLayout c = false := by
  fun_induction skipBlanks cs with
  | case1 => cases h
  | case2 cs ih => exact ih h
  | case3 c' cs _ _ ih => exact ih h
  | case4 c' cs hs hl =>
      obtain ⟨rfl, rfl⟩ := List.cons.inj h
      refine ⟨fun he => hs he, ?_⟩
      cases hb : isLayout c' with
      | false => rfl
      | true => exact absurd (isLayout_iff.1 hb) hl

theorem skipBlanks_skipBlanks (cs : List Char) : skipBlanks (skipBlanks cs) = skipBlanks cs := by
  cases h : skipBlanks cs with
  | nil => exact skipBlanks_nil
  | cons c tail => exact skipBlanks_stop (skipBlanks_head h).1 (skipBlanks_head h).2 tail

/-- Blanks and comments that are over: a comment reaches to the newline after it. -/
inductive Filler : List Char → Prop
  | nil : Filler []
  | layout {c : Char} {p : List Char} (hc : isLayout c = true) (hp : Filler p) : Filler (c :: p)
  | comment {q p : List Char} (hq : ∀ c ∈ q, c ≠ '\n') (hp : Filler p) :
      Filler (';' :: q ++ '\n' :: p)

theorem run_comment (q : List Char) (h : ∀ c ∈ q, c ≠ '\n') (owed : List Char) :
    ScanState.run ⟨.comment, owed⟩ q = .ok ⟨.comment, owed⟩ := by
  induction q with
  | nil => rfl
  | cons c q ih =>
      have hc : c ≠ '\n' := h c List.mem_cons_self
      have hq := ih fun d hd => h d (List.mem_cons_of_mem c hd)
      simpa [ScanState.run, ScanState.step, Region.next, hc, Except.bind] using hq

theorem run_open_comment (q : List Char) (h : ∀ c ∈ q, c ≠ '\n') (owed : List Char) :
    ScanState.run ⟨.code, owed⟩ (';' :: q) = .ok ⟨.comment, owed⟩ :=
  run_comment q h owed

theorem Filler.neutral {p : List Char} (h : Filler p) : Neutral p := by
  induction h with
  | nil => exact neutral_nil
  | layout hc _ ih => exact ih.cons_plain (isPlain_of_isLayout hc)
  | @comment q p hq _ ih =>
      intro owed
      rw [ScanState.run_append_of_ok (run_open_comment q hq owed)]
      exact ih owed

theorem Filler.last {p : List Char} (h : Filler p) : ∀ c ∈ p.getLast?, isLayout c = true := by
  induction h with
  | nil => simp
  | @layout c p hc _ ih =>
      cases p with
      | nil => simpa using hc
      | cons d p => simpa using ih
  | @comment q p _ _ ih =>
      rw [List.getLast?_append_of_ne_nil _ (by simp)]
      cases p with
      | nil => simp [isLayout]
      | cons d p => simpa using ih

/-- A comment is over at the first newline, or goes on to the end of the text. -/
theorem comment_split (cs : List Char) :
    ((∀ c ∈ cs, c ≠ '\n') ∧ cs.dropWhile (· ≠ '\n') = []) ∨
      ∃ q rest, cs = q ++ '\n' :: rest ∧ (∀ c ∈ q, c ≠ '\n') ∧
        cs.dropWhile (· ≠ '\n') = '\n' :: rest := by
  cases h : cs.dropWhile (· ≠ '\n') with
  | nil => exact Or.inl ⟨by simpa [List.dropWhile_eq_nil_iff] using h, rfl⟩
  | cons d rest =>
      have hd : d = '\n' := by
        have := List.head_dropWhile_not (· ≠ '\n') (l := cs) (by rw [h]; simp)
        simp only [h, List.head_cons] at this
        simpa using this
      subst hd
      refine Or.inr ⟨cs.takeWhile (· ≠ '\n'), rest, ?_, ?_, rfl⟩
      · rw [← h, List.takeWhile_append_dropWhile]
      · intro c hc
        simpa using List.mem_takeWhile_imp hc

/-- What is skipped is a filler, perhaps with an open comment up to the end of the text. -/
theorem skipBlanks_split (cs : List Char) :
    ∃ p, Filler p ∧ (cs = p ++ skipBlanks cs ∨
      skipBlanks cs = [] ∧ ∃ q, cs = p ++ ';' :: q ∧ ∀ c ∈ q, c ≠ '\n') := by
  fun_induction skipBlanks cs with
  | case1 => exact ⟨[], .nil, Or.inl rfl⟩
  | case2 cs ih =>
      rcases comment_split cs with ⟨hall, hnil⟩ | ⟨q, rest, rfl, hq, hdrop⟩
      · rw [hnil, skipBlanks_nil]
        exact ⟨[], .nil, Or.inr ⟨rfl, cs, rfl, hall⟩⟩
      · rw [hdrop] at ih ⊢
        obtain ⟨p, hp, hrest⟩ := ih
        cases hp with
        | nil =>
            -- The newline itself would be left over.
            rw [skipBlanks_layout rfl] at hrest
            have hle := length_skipBlanks_le rest
            rcases hrest with hrest | ⟨_, q', hrest, _⟩
            · have hlen := congrArg List.length hrest
              simp only [List.nil_append, List.length_cons] at hlen
              omega
            · cases hrest
        | @layout c p hc hp =>
            refine ⟨';' :: q ++ '\n' :: p, .comment hq hp, ?_⟩
            rcases hrest with hrest | ⟨hnil, q', hrest, hq'⟩
            · have htail : rest = p ++ skipBlanks ('\n' :: rest) := (List.cons.inj hrest).2
              refine Or.inl ?_
              calc ';' :: (q ++ '\n' :: rest)
                  = ';' :: (q ++ '\n' :: (p ++ skipBlanks ('\n' :: rest))) := by rw [← htail]
                _ = _ := by simp
            · have htail : rest = p ++ ';' :: q' := (List.cons.inj hrest).2
              exact Or.inr ⟨hnil, q', by simp [htail], hq'⟩
        | comment _ _ =>
            rcases hrest with hrest | ⟨_, _, hrest, _⟩ <;> cases hrest
  | case3 c cs _ hl ih =>
      obtain ⟨p, hp, hrest⟩ := ih
      refine ⟨c :: p, .layout (isLayout_iff.2 hl) hp, ?_⟩
      rcases hrest with hrest | ⟨hnil, q, hrest, hq⟩
      · exact Or.inl (by rw [List.cons_append, ← hrest])
      · exact Or.inr ⟨hnil, q, by rw [hrest, List.cons_append], hq⟩
  | case4 c cs _ _ => exact ⟨[], .nil, Or.inl rfl⟩

/-- Before anything but the end of the text, a filler is skipped. -/
theorem skipBlanks_filler {cs tail : List Char} {c : Char} (h : skipBlanks cs = c :: tail) :
    ∃ p, cs = p ++ c :: tail ∧ Filler p := by
  obtain ⟨p, hp, hcs | ⟨hnil, _⟩⟩ := skipBlanks_split cs
  · exact ⟨p, by rw [← h]; exact hcs, hp⟩
  · rw [h] at hnil
    cases hnil

/-- Skipping blanks and comments keeps the verdict. -/
theorem scanBalance_skipBlanks (owed cs : List Char) :
    scanBalance .code owed (skipBlanks cs) = scanBalance .code owed cs := by
  obtain ⟨p, hp, hcs | ⟨hnil, q, hcs, hq⟩⟩ := skipBlanks_split cs
  · have h := hp.neutral.scanBalance owed (skipBlanks cs)
    rw [← hcs] at h
    exact h.symm
  · have h := hp.neutral.scanBalance owed (';' :: q)
    rw [← hcs, scanBalance_eq ⟨.code, owed⟩ (';' :: q), run_open_comment q hq] at h
    rw [h, hnil]
    cases owed <;> rfl

theorem balance_skipBlanks (cs : List Char) : balance (skipBlanks cs) = balance cs :=
  scanBalance_skipBlanks [] cs

/-! ## Atoms -/

/-- The characters that mean something to the scan outside literals. -/
def marks : List Char := ['"', ';', '(', '[', '{', ')', ']', '}']

theorem mem_marks_of_not_plain {c : Char} (h : isPlain c = false) : c ∈ marks := by
  by_cases hq : c = '"'
  · simp [marks, hq]
  by_cases hs : c = ';'
  · simp [marks, hs]
  by_cases hk : isCloser c = true
  · simp only [isCloser, Bool.or_eq_true, decide_eq_true_eq, or_assoc] at hk
    simp only [marks, List.mem_cons]
    grind
  cases hc : closerOf c with
  | none => simp [isPlain, hq, hs, hk, hc] at h
  | some closer =>
      unfold closerOf at hc
      split at hc <;> simp_all [marks]

/-- A class of characters without marks is plain. -/
theorem isPlain_of_class {p : Char → Bool} (hp : marks.all (fun d => !p d) = true) {c : Char}
    (h : p c = true) : isPlain c = true := by
  cases hc : isPlain c with
  | true => rfl
  | false =>
      rw [Number.not_of_all hp (mem_marks_of_not_plain hc)] at h
      cases h

theorem isPlain_of_isNumeralChar {c : Char} (h : Number.isNumeralChar c = true) :
    isPlain c = true :=
  isPlain_of_class (by decide) h

theorem isPlain_of_isSymbolChar {c : Char} (h : isSymbolChar c = true) : isPlain c = true :=
  isPlain_of_class (by decide) h

/-- What an atom can be: a number before a delimiter, a literal or a symbol. -/
theorem takeAtom_cases {cs rest : List Char} {d : Datum} (h : takeAtom cs = some (d, rest)) :
    (∃ n : Number.Numeral, cs = n.text ++ rest ∧ atDelimiter rest = true ∧ d = .number n.value) ∨
    (∃ tail body, cs = '"' :: tail ∧ readLiteral tail = some (body, rest) ∧
      d = .text (String.ofList body)) ∨
    (∃ c tail, cs = c :: tail ∧ Number.takeNumeral cs = none ∧ isSymbolChar c = true ∧
      c.isDigit = false ∧ d = .symbol (String.ofList (c :: tail.takeWhile isSymbolChar)) ∧
      rest = tail.dropWhile isSymbolChar) := by
  unfold takeAtom at h
  split at h
  · next numeral tail hn =>
    obtain ⟨n, rfl, hcs⟩ := Number.takeNumeral_split hn
    split at h
    · next hdelim =>
      rw [Number.parse_text, Option.map_some, Option.some.injEq, Prod.mk.injEq] at h
      obtain ⟨rfl, rfl⟩ := h
      exact Or.inl ⟨n, hcs, hdelim, rfl⟩
    · cases h
  · next hn =>
    split at h
    · next tail =>
      obtain ⟨⟨body, rest'⟩, hp, he⟩ := Option.map_eq_some_iff.1 h
      obtain ⟨rfl, rfl⟩ := Prod.mk.inj he
      exact Or.inr (Or.inl ⟨tail, body, rfl, hp, rfl⟩)
    · next c tail _ =>
      split at h
      · next hc =>
        simp only [Bool.and_eq_true, Bool.not_eq_true'] at hc
        simp only [Option.some.injEq, Prod.mk.injEq] at h
        exact Or.inr (Or.inr ⟨c, tail, rfl, hn, hc.1, hc.2, h.1.symm, h.2.symm⟩)
      · cases h
    · cases h

theorem endsNumeral_of_atDelimiter {rest : List Char} (h : atDelimiter rest = true) :
    Number.EndsNumeral rest := by
  intro c hc
  cases rest with
  | nil => cases hc
  | cons d rest =>
      obtain rfl : d = c := by simpa using hc
      exact Number.not_numeralChar_of_class (p := isDelimiter) (by decide) h

theorem takeAtom_number (n : Number.Numeral) {rest : List Char} (h : atDelimiter rest = true) :
    takeAtom (n.text ++ rest) = some (.number n.value, rest) := by
  have hn := Number.takeNumeral_append n (endsNumeral_of_atDelimiter h)
  simp [takeAtom, hn, h, Number.parse_text]

theorem takeAtom_literal {tail body rest : List Char} (h : readLiteral tail = some (body, rest)) :
    takeAtom ('"' :: tail) = some (.text (String.ofList body), rest) := by
  have hn : Number.takeNumeral ('"' :: tail) = none :=
    Number.takeNumeral_none (by simp) (by intro t ht; cases ht)
  simp [takeAtom, hn, h]

theorem takeAtom_symbol {c : Char} {word rest : List Char}
    (hn : Number.takeNumeral (c :: word ++ rest) = none) (hd : c.isDigit = false)
    (hw : ∀ e ∈ c :: word, isSymbolChar e = true) (hr : ∀ e ∈ rest.head?, isSymbolChar e = false) :
    takeAtom (c :: word ++ rest) = some (.symbol (String.ofList (c :: word)), rest) := by
  have hc : isSymbolChar c = true := hw c List.mem_cons_self
  have hq : c ≠ '"' := by rintro rfl; cases hc
  have hspan := Number.span_append (fun e he => hw e (List.mem_cons_of_mem c he)) hr
  rw [List.cons_append] at hn ⊢
  have hsym : (isSymbolChar c && !c.isDigit) = true := by rw [hc, hd]; rfl
  simp only [takeAtom, hn, hsym, if_true, hspan.1, hspan.2]

/-- The scan goes through a literal and comes out after its closing quote. -/
theorem readLiteral_split {cs body rest : List Char} (h : readLiteral cs = some (body, rest)) :
    ∃ p, cs = p ++ '"' :: rest ∧
      ∀ owed, ScanState.run ⟨.literal false, owed⟩ p = .ok ⟨.literal false, owed⟩ := by
  fun_induction readLiteral cs generalizing body with
  | case1 => cases h
  | case2 cs =>
      simp only [Option.some.injEq, Prod.mk.injEq] at h
      obtain ⟨-, rfl⟩ := h
      exact ⟨[], rfl, fun _ => rfl⟩
  | case3 => cases h
  | case4 c cs ih =>
      obtain ⟨⟨body', rest'⟩, hp, he⟩ := Option.map_eq_some_iff.1 h
      obtain ⟨-, rfl⟩ := Prod.mk.inj he
      obtain ⟨p, rfl, hrun⟩ := ih hp
      exact ⟨'\\' :: c :: p, rfl, hrun⟩
  | case5 c cs hquote hlast hescape ih =>
      obtain ⟨⟨body', rest'⟩, hp, he⟩ := Option.map_eq_some_iff.1 h
      obtain ⟨-, rfl⟩ := Prod.mk.inj he
      obtain ⟨p, rfl, hrun⟩ := ih hp
      refine ⟨c :: p, rfl, fun owed => ?_⟩
      have hq : c ≠ '"' := fun hc => hquote hc
      have hb : c ≠ '\\' := by
        rintro rfl
        cases p with
        | nil => exact hescape _ _ rfl rfl
        | cons e p => exact hescape _ _ rfl rfl
      simpa [ScanState.run, ScanState.step, Region.next, hq, hb, Except.bind] using hrun owed

theorem neutral_literal {p : List Char}
    (h : ∀ owed, ScanState.run ⟨.literal false, owed⟩ p = .ok ⟨.literal false, owed⟩) :
    Neutral ('"' :: p ++ ['"']) := by
  intro owed
  have hopen : ScanState.run ⟨.code, owed⟩ ['"'] = .ok ⟨.literal false, owed⟩ := rfl
  have hclose : ScanState.run ⟨.literal false, owed⟩ ['"'] = .ok ⟨.code, owed⟩ := rfl
  change ScanState.run ⟨.code, owed⟩ (['"'] ++ (p ++ ['"'])) = _
  rw [ScanState.run_append_of_ok hopen, ScanState.run_append_of_ok (h owed), hclose]

theorem takeAtom_split {cs rest : List Char} {d : Datum} (h : takeAtom cs = some (d, rest)) :
    ∃ p, cs = p ++ rest ∧ Neutral p := by
  rcases takeAtom_cases h with ⟨n, hcs, -⟩ | ⟨tail, body, rfl, hbody, -⟩ |
    ⟨c, tail, rfl, -, hc, -, -, rfl⟩
  · exact ⟨n.text, hcs, neutral_plain fun c hc => isPlain_of_isNumeralChar (n.numeralChar c hc)⟩
  · obtain ⟨p, rfl, hrun⟩ := readLiteral_split hbody
    exact ⟨'"' :: p ++ ['"'], by simp, neutral_literal hrun⟩
  · refine ⟨c :: tail.takeWhile isSymbolChar, ?_, neutral_plain ?_⟩
    · rw [List.cons_append, List.takeWhile_append_dropWhile]
    · intro e he
      rcases List.mem_cons.1 he with rfl | he
      · exact isPlain_of_isSymbolChar hc
      · exact isPlain_of_isSymbolChar (List.mem_takeWhile_imp he)

/-! ## Lists -/

/-- The data before a closing bracket and what follows that bracket. -/
def takeItems (closer : Char) (cs : List Char) : Option (List Datum × List Char) :=
  (takeItems? closer cs).map (·.1)

theorem takeAtom?_map (cs : List Char) : (takeAtom? cs).map (·.1) = takeAtom cs := by
  unfold takeAtom?
  split
  · next h => exact h.symm
  · next h => exact h.symm

theorem takeDatum_nil {cs : List Char} (h : skipBlanks cs = []) : takeDatum cs = none := by
  unfold takeDatum takeDatum?
  split
  · rfl
  · next heq => rw [h] at heq; cases heq

/-- A datum is an atom, or the data between two brackets. -/
theorem takeDatum_cons {cs tail : List Char} {c : Char} (h : skipBlanks cs = c :: tail) :
    takeDatum cs =
      match closerOf c with
      | some closer => (takeItems closer tail).map fun p => (.list p.1, p.2)
      | none => takeAtom (c :: tail) := by
  unfold takeDatum takeDatum?
  split
  · next heq => rw [h] at heq; cases heq
  · next c' tail' heq =>
    rw [h] at heq
    obtain ⟨rfl, rfl⟩ := List.cons.inj heq
    cases hc : closerOf c with
    | some closer =>
        simp only [takeItems]
        cases takeItems? closer tail <;> rfl
    | none =>
        simp only
        rw [← takeAtom?_map (c :: tail)]
        cases takeAtom? (c :: tail) <;> rfl

theorem takeItems_nil {closer : Char} {cs : List Char} (h : skipBlanks cs = []) :
    takeItems closer cs = none := by
  unfold takeItems
  rw [takeItems?]
  split
  · rfl
  · next heq => rw [h] at heq; cases heq

/-- The items end at the closing bracket; before it stands a datum and more items. -/
theorem takeItems_cons {closer c : Char} {cs tail : List Char} (h : skipBlanks cs = c :: tail) :
    takeItems closer cs =
      if c = closer then some ([], tail)
      else (takeDatum cs).bind fun p => (takeItems closer p.2).map fun q => (p.1 :: q.1, q.2) := by
  rw [takeDatum_cons h]
  unfold takeItems
  rw [takeItems?]
  split
  · next heq => rw [h] at heq; cases heq
  · next c' tail' heq =>
    rw [h] at heq
    obtain ⟨rfl, rfl⟩ := List.cons.inj heq
    by_cases hcl : c = closer
    · rw [if_pos hcl, if_pos hcl]
      rfl
    · rw [if_neg hcl, if_neg hcl]
      cases hc : closerOf c with
      | some inner =>
          simp only
          cases takeItems? inner tail with
          | none => rfl
          | some p =>
              obtain ⟨⟨items, after⟩, ha⟩ := p
              simp only [Option.map_some, Option.bind_some]
              cases takeItems? closer after <;> rfl
      | none =>
          simp only
          rw [← takeAtom?_map (c :: tail)]
          cases takeAtom? (c :: tail) with
          | none => rfl
          | some p =>
              obtain ⟨⟨d, after⟩, ha⟩ := p
              simp only [Option.map_some, Option.bind_some]
              cases takeItems? closer after <;> rfl

theorem takeDatum_skipBlanks (cs : List Char) : takeDatum (skipBlanks cs) = takeDatum cs := by
  cases h : skipBlanks cs with
  | nil => rw [takeDatum_nil h, takeDatum_nil skipBlanks_nil]
  | cons c tail =>
      have hskip : skipBlanks (c :: tail) = c :: tail := by rw [← h, skipBlanks_skipBlanks]
      rw [takeDatum_cons h, takeDatum_cons hskip]

/-- Induction over a successful reading: a property of data and one of the items of a list, each
shown from the parts that were read before. -/
theorem taking_induction {D : List Char → Datum → List Char → Prop}
    {I : Char → List Char → List Datum → List Char → Prop}
    (atom : ∀ {cs tail rest c d}, skipBlanks cs = c :: tail → closerOf c = none →
      takeAtom (c :: tail) = some (d, rest) → D cs d rest)
    (list : ∀ {cs tail rest c closer items}, skipBlanks cs = c :: tail →
      closerOf c = some closer → I closer tail items rest → D cs (.list items) rest)
    (close : ∀ {closer cs rest}, skipBlanks cs = closer :: rest → I closer cs [] rest)
    (item : ∀ {closer cs mid rest d items}, D cs d mid → I closer mid items rest →
      I closer cs (d :: items) rest) :
    (∀ cs d rest, takeDatum cs = some (d, rest) → D cs d rest) ∧
    (∀ closer cs items rest, takeItems closer cs = some (items, rest) →
      I closer cs items rest) := by
  -- Both at once, by strong induction on the length of the text.
  have both : ∀ (n : Nat) (cs : List Char), cs.length = n →
      (∀ {d rest}, takeDatum cs = some (d, rest) → D cs d rest) ∧
      (∀ {closer items rest}, takeItems closer cs = some (items, rest) →
        I closer cs items rest) := by
    intro n
    induction n using Nat.strong_induction_on with
    | _ n ih =>
        intro cs hn
        cases hskip : skipBlanks cs with
        | nil =>
            constructor
            · intro d rest h
              rw [takeDatum_nil hskip] at h
              cases h
            · intro closer items rest h
              rw [takeItems_nil hskip] at h
              cases h
        | cons c tail =>
            have hlt := length_of_skipBlanks hskip
            have datum : ∀ {d rest}, takeDatum cs = some (d, rest) → D cs d rest := by
              intro d rest h
              rw [takeDatum_cons hskip] at h
              cases hc : closerOf c with
              | some closer =>
                  rw [hc] at h
                  obtain ⟨⟨items, rest'⟩, hitems, he⟩ := Option.map_eq_some_iff.1 h
                  obtain ⟨rfl, rfl⟩ := Prod.mk.inj he
                  exact list hskip hc ((ih tail.length (by omega) tail rfl).2 hitems)
              | none =>
                  rw [hc] at h
                  exact atom hskip hc h
            refine ⟨datum, ?_⟩
            intro closer items rest h
            rw [takeItems_cons hskip] at h
            split at h
            · next hcl =>
              subst hcl
              simp only [Option.some.injEq, Prod.mk.injEq] at h
              obtain ⟨rfl, rfl⟩ := h
              exact close hskip
            · obtain ⟨⟨d, mid⟩, hd, hmore⟩ := Option.bind_eq_some_iff.1 h
              obtain ⟨⟨more, rest'⟩, hitems, he⟩ := Option.map_eq_some_iff.1 hmore
              obtain ⟨rfl, rfl⟩ := Prod.mk.inj he
              have hmid := length_of_takeDatum hd
              exact item (datum hd) ((ih mid.length (by omega) mid rfl).2 hitems)
  exact ⟨fun cs _ _ h => (both cs.length cs rfl).1 h, fun _ cs _ _ h => (both cs.length cs rfl).2 h⟩

/-- The text of a datum is neutral, and so is what stands between two brackets. -/
theorem taking_neutral :
    (∀ cs d rest, takeDatum cs = some (d, rest) → ∃ p, cs = p ++ rest ∧ Neutral p) ∧
    (∀ closer cs items rest, takeItems closer cs = some (items, rest) →
      ∃ p, cs = p ++ closer :: rest ∧ Neutral p) := by
  apply taking_induction
  case atom =>
    intro cs tail rest c d hskip _ hatom
    obtain ⟨b, rfl, hb⟩ := skipBlanks_filler hskip
    obtain ⟨p, hp, hn⟩ := takeAtom_split hatom
    exact ⟨b ++ p, by rw [hp, List.append_assoc], hb.neutral.append hn⟩
  case list =>
    intro cs tail rest c closer items hskip hc hitems
    obtain ⟨b, rfl, hb⟩ := skipBlanks_filler hskip
    obtain ⟨p, rfl, hn⟩ := hitems
    exact ⟨b ++ (c :: p ++ [closer]), by simp, hb.neutral.append (hn.bracket hc)⟩
  case close =>
    intro closer cs rest hskip
    obtain ⟨b, rfl, hb⟩ := skipBlanks_filler hskip
    exact ⟨b, rfl, hb.neutral⟩
  case item =>
    intro closer cs mid rest d items hd hitems
    obtain ⟨p, rfl, hp⟩ := hd
    obtain ⟨q, rfl, hq⟩ := hitems
    exact ⟨p ++ q, by rw [List.append_assoc], hp.append hq⟩

theorem takeItems_skipBlanks (closer : Char) (cs : List Char) :
    takeItems closer (skipBlanks cs) = takeItems closer cs := by
  cases h : skipBlanks cs with
  | nil => rw [takeItems_nil h, takeItems_nil skipBlanks_nil]
  | cons c tail =>
      have hskip : skipBlanks (c :: tail) = c :: tail := by rw [← h, skipBlanks_skipBlanks]
      have hd := takeDatum_skipBlanks cs
      rw [h] at hd
      rw [takeItems_cons h, takeItems_cons hskip, hd]

/-- A datum in front of items is the first of them. -/
theorem takeItems_of_takeDatum {closer : Char} {cs mid : List Char} {d : Datum}
    (hk : isCloser closer = true) (h : takeDatum cs = some (d, mid)) :
    takeItems closer cs = (takeItems closer mid).map fun q => (d :: q.1, q.2) := by
  cases hskip : skipBlanks cs with
  | nil =>
      rw [takeDatum_nil hskip] at h
      cases h
  | cons c tail =>
      have hc : c ≠ closer := by
        rintro rfl
        rw [← takeDatum_skipBlanks, hskip] at h
        obtain ⟨p, hp, hn⟩ := taking_neutral.1 _ _ _ h
        have hlt := length_of_takeDatum h
        cases p with
        | nil =>
            rw [hp, List.nil_append] at hlt
            omega
        | cons e p =>
            obtain ⟨rfl, -⟩ := List.cons.inj hp
            rw [hn.head] at hk
            cases hk
      rw [takeItems_cons hskip, if_neg hc, h]
      rfl

end ArrowLisp
