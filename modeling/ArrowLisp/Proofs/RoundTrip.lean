import ArrowLisp.Proofs.CleanText
import ArrowLisp.Proofs.NumberText

/-!
# Reading what was printed

The printed text of a datum that was read reads as one datum, with nothing left. What comes back
is the same datum unless printing lost something, and it loses two things only. An infinite number
is printed as a word, which reads as a symbol. A character that is written as `\0` or by its code
point is read as the letters of its escape, since the reader knows no such escapes.
-/

namespace ArrowLisp

/-! ## Quoted characters -/

/-- Is the character written as `\0` or by its code point in a quoted text? -/
def WrittenByCode (c : Char) : Prop :=
  Text.escape c = ['\\', '0'] ∨ ['\\', 'u', '{'] <+: Text.escape c

instance (c : Char) : Decidable (WrittenByCode c) :=
  inferInstanceAs (Decidable (_ ∨ _))

/-- What a quoted character is read as. -/
def rereadChar (c : Char) : List Char :=
  match Text.escape c with
  | '\\' :: e :: tail => unescape e :: tail
  | cs => cs

/-- Escapes are letters the reader turns back, the two codes, or the character itself. -/
theorem escape_cases (c : Char) :
    (Text.escape c = [c] ∧ c ≠ '"' ∧ c ≠ '\\') ∨
    (∃ e, Text.escape c = ['\\', e] ∧ e ≠ '0' ∧ unescape e = c) ∨
    (Text.escape c = ['\\', '0'] ∧ c ≠ '0') ∨
    Text.escape c = '\\' :: 'u' :: '{' :: (Text.hexDigits c.toNat ++ ['}']) := by
  unfold Text.escape
  split
  · next h => exact Or.inr (Or.inr (Or.inl ⟨rfl, by rw [h]; decide⟩))
  split
  · next h => exact Or.inr (Or.inl ⟨'t', rfl, by decide, h.symm⟩)
  split
  · next h => exact Or.inr (Or.inl ⟨'r', rfl, by decide, h.symm⟩)
  split
  · next h => exact Or.inr (Or.inl ⟨'n', rfl, by decide, h.symm⟩)
  split
  · next h => exact Or.inr (Or.inl ⟨'"', rfl, by decide, h.symm⟩)
  split
  · next h => exact Or.inr (Or.inl ⟨'\\', rfl, by decide, h.symm⟩)
  split
  · exact Or.inr (Or.inr (Or.inr rfl))
  · next hq hb _ => exact Or.inl ⟨rfl, hq, hb⟩

/-- Hexadecimal digits neither end a literal nor start an escape. -/
theorem hexDigits_plain (n : Nat) : ∀ c ∈ Text.hexDigits n, c ≠ '"' ∧ c ≠ '\\' := by
  have hdigit : ∀ k < 16, Nat.digitChar k ≠ '"' ∧ Nat.digitChar k ≠ '\\' := by decide
  unfold Text.hexDigits
  induction n using Nat.strong_induction_on with
  | _ n ih =>
      intro c hc
      rw [Nat.toDigits_eq_if (by decide)] at hc
      split at hc
      · next hlt =>
        obtain rfl := List.mem_singleton.1 hc
        exact hdigit n hlt
      · rcases List.mem_append.1 hc with hc | hc
        · exact ih (n / 16) (by omega) c hc
        · obtain rfl := List.mem_singleton.1 hc
          exact hdigit (n % 16) (Nat.mod_lt n (by decide))

theorem readLiteral_escaped (e : Char) (tail : List Char) :
    readLiteral ('\\' :: e :: tail) =
      (readLiteral tail).map fun p => (unescape e :: p.1, p.2) := by
  rw [readLiteral]

/-- Characters without a meaning of their own in a literal are read as they are. -/
theorem readLiteral_plain {cs : List Char} (h : ∀ c ∈ cs, c ≠ '"' ∧ c ≠ '\\') (tail : List Char) :
    readLiteral (cs ++ tail) = (readLiteral tail).map fun p => (cs ++ p.1, p.2) := by
  induction cs with
  | nil => simp
  | cons c cs ih =>
      obtain ⟨hq, hb⟩ := h c List.mem_cons_self
      have hstep : readLiteral (c :: (cs ++ tail)) =
          (readLiteral (cs ++ tail)).map fun p => (c :: p.1, p.2) := by
        rw [readLiteral]
        · exact hq
        · rintro rfl
          exact absurd rfl hb
        · rintro e ds rfl
          exact absurd rfl hb
      rw [List.cons_append, hstep, ih fun d hd => h d (List.mem_cons_of_mem c hd), Option.map_map]
      rfl

theorem readLiteral_escape (c : Char) (tail : List Char) :
    readLiteral (Text.escape c ++ tail) =
      (readLiteral tail).map fun p => (rereadChar c ++ p.1, p.2) := by
  rcases escape_cases c with ⟨he, hq, hb⟩ | ⟨e, he, -, -⟩ | ⟨he, -⟩ | he
  · have hreread : rereadChar c = [c] := by simp [rereadChar, he]
    rw [he, hreread]
    exact readLiteral_plain (by simpa using ⟨hq, hb⟩) tail
  · simp only [rereadChar, he]
    exact readLiteral_escaped e tail
  · simp only [rereadChar, he]
    exact readLiteral_escaped '0' tail
  · have hcode : ∀ d ∈ '{' :: (Text.hexDigits c.toNat ++ ['}']), d ≠ '"' ∧ d ≠ '\\' := by
      intro d hd
      rcases List.mem_cons.1 hd with rfl | hd
      · decide
      · rcases List.mem_append.1 hd with hd | hd
        · exact hexDigits_plain _ d hd
        · obtain rfl := List.mem_singleton.1 hd
          decide
    simp only [rereadChar, he]
    rw [List.cons_append, List.cons_append, readLiteral_escaped, readLiteral_plain hcode,
      Option.map_map]
    rfl

/-- A quoted text is read up to its closing quote. -/
theorem readLiteral_quoted (s rest : List Char) :
    readLiteral (s.flatMap Text.escape ++ '"' :: rest) = some (s.flatMap rereadChar, rest) := by
  induction s with
  | nil => rfl
  | cons c s ih => rw [List.flatMap_cons, List.append_assoc, readLiteral_escape, ih]; rfl

theorem rereadChar_eq_iff (c : Char) : rereadChar c = [c] ↔ ¬ WrittenByCode c := by
  unfold WrittenByCode
  rcases escape_cases c with ⟨he, hq, hb⟩ | ⟨e, he, hne, hc⟩ | ⟨he, hne⟩ | he
  · simp [rereadChar, he]
  · simp [rereadChar, he, hne, hc]
  · simp [rereadChar, he, unescape, hne.symm]
  · simp [rereadChar, he]

theorem one_le_length_rereadChar (c : Char) : 1 ≤ (rereadChar c).length := by
  rcases escape_cases c with ⟨he, -⟩ | ⟨e, he, -⟩ | ⟨he, -⟩ | he <;> simp [rereadChar, he]

theorem length_le_flatMap_rereadChar (s : List Char) :
    s.length ≤ (s.flatMap rereadChar).length := by
  induction s with
  | nil => exact Nat.le_refl 0
  | cons c s ih =>
      have hc := one_le_length_rereadChar c
      rw [List.flatMap_cons, List.length_append, List.length_cons]
      omega

/-- A literal comes back as it was if and only if no character of it is written by its code. -/
theorem flatMap_rereadChar_eq_iff (s : List Char) :
    s.flatMap rereadChar = s ↔ ∀ c ∈ s, ¬ WrittenByCode c := by
  induction s with
  | nil => simp
  | cons c s ih =>
      rw [List.forall_mem_cons, ← ih, ← rereadChar_eq_iff, List.flatMap_cons]
      constructor
      · intro h
        -- No character gets shorter, so each one comes back in its own place.
        have hlen := congrArg List.length h
        have hc := one_le_length_rereadChar c
        have hs := length_le_flatMap_rereadChar s
        rw [List.length_append, List.length_cons] at hlen
        rw [← List.singleton_append] at h
        exact List.append_inj h (by rw [List.length_singleton]; omega)
      · rintro ⟨hc, hs⟩
        rw [hc, hs, List.singleton_append]

/-! ## Data -/

namespace Datum

mutual

/-- What can be read: no undefined number, and no name but a symbol word. -/
def WellRead : Datum → Prop
  | .number x => Number.kind x ≠ .undefined
  | .text _ => True
  | .symbol name => IsSymbolWord name.toList ∧ name.toList ≠ []
  | .list items => WellReadItems items

def WellReadItems : List Datum → Prop
  | [] => True
  | d :: items => d.WellRead ∧ WellReadItems items

end

mutual

/-- No infinite number in it, and no literal with a character that is written by its code. -/
def Lossless : Datum → Prop
  | .number x => ∀ negative, Number.kind x ≠ .infinite negative
  | .text s => ∀ c ∈ s.toList, ¬ WrittenByCode c
  | .symbol _ => True
  | .list items => LosslessItems items

def LosslessItems : List Datum → Prop
  | [] => True
  | d :: items => d.Lossless ∧ LosslessItems items

end

mutual

/-- The datum that the printed text of a datum is read as. -/
def reread : Datum → Datum
  | .number x =>
    match Number.kind x with
    | .infinite _ => .symbol (Number.plain x)
    | _ => .number x
  | .text s => .text (String.ofList (s.toList.flatMap rereadChar))
  | .symbol name => .symbol name
  | .list items => .list (rereadItems items)

def rereadItems : List Datum → List Datum
  | [] => []
  | d :: items => d.reread :: rereadItems items

end

mutual

/-- Are two data the same part by part, with numbers compared as numbers? -/
def agrees : Datum → Datum → Bool
  | .number x, .number y => x == y
  | .text s, .text t => s == t
  | .symbol s, .symbol t => s == t
  | .list xs, .list ys => agreesItems xs ys
  | _, _ => false

def agreesItems : List Datum → List Datum → Bool
  | [], [] => true
  | x :: xs, y :: ys => x.agrees y && agreesItems xs ys
  | _, _ => false

end

/-! ## What the printed text keeps -/

mutual

theorem reread_of_lossless : ∀ d : Datum, d.Lossless → d.reread = d
  | .number x, h => by
      rw [reread]
      split
      · next negative hk => exact absurd hk (h negative)
      · rfl
  | .text s, h => by
      rw [reread, (flatMap_rereadChar_eq_iff s.toList).2 h, String.ofList_toList]
  | .symbol _, _ => by rw [reread]
  | .list items, h => by rw [reread, rereadItems_of_lossless items h]

theorem rereadItems_of_lossless : ∀ items : List Datum, LosslessItems items →
    rereadItems items = items
  | [], _ => by rw [rereadItems]
  | d :: items, h => by
      rw [rereadItems, reread_of_lossless d h.1, rereadItems_of_lossless items h.2]

end

mutual

theorem lossless_of_agrees : ∀ d : Datum, d.reread.agrees d = true → d.Lossless
  | .number x, h => by
      intro negative hk
      simp [reread, hk, agrees] at h
  | .text s, h => by
      have hs : String.ofList (s.toList.flatMap rereadChar) = s := by
        simpa [reread, agrees] using h
      have hl := congrArg String.toList hs
      rw [String.toList_ofList] at hl
      exact (flatMap_rereadChar_eq_iff s.toList).1 hl
  | .symbol _, _ => trivial
  | .list items, h => losslessItems_of_agrees items (by simpa only [reread, agrees] using h)

theorem losslessItems_of_agrees : ∀ items : List Datum,
    agreesItems (rereadItems items) items = true → LosslessItems items
  | [], _ => trivial
  | d :: items, h => by
      rw [rereadItems, agreesItems, Bool.and_eq_true] at h
      exact ⟨lossless_of_agrees d h.1, losslessItems_of_agrees items h.2⟩

end

mutual

theorem agrees_self : ∀ d : Datum, d.WellRead → d.agrees d = true
  | .number x, h => Number.beq_self h
  | .text s, _ => by simp [agrees]
  | .symbol name, _ => by simp [agrees]
  | .list items, h => by rw [agrees, agreesItems_self items h]

theorem agreesItems_self :
    ∀ items : List Datum, WellReadItems items → agreesItems items items = true
  | [], _ => by rw [agreesItems]
  | d :: items, h => by
      rw [agreesItems, agrees_self d h.1, agreesItems_self items h.2, Bool.and_self]

end

end Datum

/-! ## What was read -/

/-- No decimal goes beyond the infinite magnitude. -/
theorem magnitude_le_infinityBits (d : Number.Decimal) : d.magnitude ≤ Number.infinityBits := by
  have hnear : ∀ num den, Number.nearestMagnitude num den ≤ Number.infinityBits :=
    fun _ _ => Nat.min_le_right _ _
  unfold Number.Decimal.magnitude
  split
  · exact Nat.zero_le _
  · split
    · split
      · exact Nat.le_refl _
      · exact hnear _ _
    · split
      · exact Nat.zero_le _
      · exact hnear _ _

/-- A numeral never writes the undefined number. -/
theorem kind_value_ne_undefined (n : Number.Numeral) : Number.kind n.value ≠ .undefined := by
  have hle := magnitude_le_infinityBits n.decimal
  have hkind := Number.kind_ofMagnitude n.negative hle
  change Number.kind (Number.ofMagnitude n.negative n.decimal.magnitude) ≠ _
  rw [hkind]
  split <;> simp

/-- A name is read only where no number starts, so it is a symbol word. -/
theorem isSymbolWord_of_takeNumeral {c : Char} {tail : List Char} (hc : isSymbolChar c = true)
    (hd : c.isDigit = false) (hn : Number.takeNumeral (c :: tail) = none) :
    IsSymbolWord (c :: tail.takeWhile isSymbolChar) where
  chars := by
    intro e he
    rcases List.mem_cons.1 he with rfl | he
    · exact hc
    · exact List.mem_takeWhile_imp he
  no_digit := by
    intro e he
    obtain rfl : c = e := by simpa using he
    exact hd
  no_minus_digit := by
    intro hminus e he
    obtain rfl : c = '-' := by simpa using hminus
    cases tail with
    | nil => cases he
    | cons d tail =>
        obtain rfl : d = e := by
          rw [List.tail_cons, List.takeWhile_cons] at he
          split at he
          · simpa using he
          · cases he
        cases hdig : d.isDigit with
        | false => rfl
        | true =>
            rw [Number.takeNumeral, Option.map_eq_none_iff] at hn
            exact absurd hn (Number.takeUnsigned_digit hdig tail)

theorem taking_wellRead :
    (∀ cs d rest, takeDatum cs = some (d, rest) → d.WellRead) ∧
    (∀ closer cs items rest, takeItems closer cs = some (items, rest) →
      Datum.WellReadItems items) := by
  apply taking_induction
  case atom =>
    intro cs tail rest c d _ _ hatom
    rcases takeAtom_cases hatom with ⟨n, -, -, rfl⟩ | ⟨_, body, -, -, rfl⟩ |
      ⟨e, tail', hcs, hn, he, hd, rfl, -⟩
    · exact kind_value_ne_undefined n
    · trivial
    · rw [hcs] at hn
      rw [Datum.WellRead, String.toList_ofList]
      exact ⟨isSymbolWord_of_takeNumeral he hd hn, List.cons_ne_nil _ _⟩
  case list =>
    intro cs tail rest c closer items _ _ hitems
    exact hitems
  case close =>
    intro closer cs rest _
    trivial
  case item =>
    intro closer cs mid rest d items hd hitems
    exact ⟨hd, hitems⟩

/-! ## Reading it again -/

/-- What may stand after a printed datum: nothing, a space or a closing parenthesis. -/
def Follows (rest : List Char) : Prop :=
  ∀ c ∈ rest.head?, c = ' ' ∨ c = ')'

theorem Follows.not_word {rest : List Char} (h : Follows rest) :
    ∀ c ∈ rest.head?, isWordChar c = false := by
  intro c hc
  rcases h c hc with rfl | rfl <;> decide

theorem Follows.atDelimiter {rest : List Char} (h : Follows rest) : atDelimiter rest = true := by
  refine atDelimiter_of_not_word h.not_word fun hq => ?_
  rcases h '"' hq with hc | hc <;> cases hc

theorem takeAtom_plain {x : Float} (h : Number.kind x ≠ .undefined) {rest : List Char}
    (hr : Follows rest) :
    takeAtom ((Number.plain x).toList ++ rest) = some ((Datum.number x).reread, rest) := by
  cases hk : Number.kind x with
  | undefined => exact absurd hk h
  | infinite negative =>
      have hword : IsSymbolWord (Number.plain x).toList ∧ (Number.plain x).toList ≠ [] := by
        cases negative <;> rw [Number.plain, Number.layout, hk, String.toList_ofList] <;> decide
      rw [takeAtom_symbolWord hword.1 hword.2 hr.not_word, String.ofList_toList]
      simp only [Datum.reread, hk]
  | finite negative magnitude =>
      obtain ⟨n, htext, hvalue⟩ := Number.plain_numeral hk
      rw [← htext, takeAtom_number n hr.atDelimiter, hvalue]
      simp only [Datum.reread, hk]

mutual

/-- A printed datum is read up to what follows it. -/
theorem takeDatum_render : ∀ d : Datum, d.WellRead → ∀ rest, Follows rest →
    takeDatum (d.render.toList ++ rest) = some (d.reread, rest)
  | .number x, h, rest, hr => by
      rw [Datum.render]
      exact takeDatum_of_takeAtom (takeAtom_plain h hr)
  | .text s, _, rest, _ => by
      have hread := readLiteral_quoted s.toList rest
      rw [Datum.render, Datum.reread, Text.quoted, String.toList_ofList]
      apply takeDatum_of_takeAtom
      simpa using takeAtom_literal hread
  | .symbol name, h, rest, hr => by
      rw [Datum.render, Datum.reread]
      have hatom := takeAtom_symbolWord h.1 h.2 hr.not_word
      rw [String.ofList_toList] at hatom
      exact takeDatum_of_takeAtom hatom
  | .list items, h, rest, _ => by
      have hitems := takeItems_renderItems items h rest
      have htext : (Datum.list items).render.toList ++ rest =
          '(' :: ((Datum.renderItems items).toList ++ ')' :: rest) := by
        simp [Datum.render]
      rw [htext, takeDatum_cons (skipBlanks_stop (by decide) (by decide) _), Datum.reread]
      simp [closerOf, hitems]

/-- Printed items are read up to their closing parenthesis. -/
theorem takeItems_renderItems : ∀ items : List Datum, Datum.WellReadItems items → ∀ rest,
    takeItems ')' ((Datum.renderItems items).toList ++ ')' :: rest) =
      some (Datum.rereadItems items, rest)
  | [], _, rest => by
      have hskip : skipBlanks (')' :: rest) = ')' :: rest :=
        skipBlanks_stop (by decide) (by decide) rest
      have htext : (Datum.renderItems []).toList ++ ')' :: rest = ')' :: rest := by
        simp [Datum.renderItems]
      rw [htext, takeItems_cons hskip, if_pos rfl, Datum.rereadItems]
  | [d], h, rest => by
      have hd := takeDatum_render d h.1 (')' :: rest) (by simp [Follows])
      have hend := takeItems_renderItems [] trivial rest
      simp only [Datum.renderItems, String.toList_empty, List.nil_append] at hend
      rw [Datum.renderItems, takeItems_of_takeDatum (by decide) hd, hend]
      rfl
  | d :: e :: items, h, rest => by
      have hmore := takeItems_renderItems (e :: items) h.2 rest
      have hd := takeDatum_render d h.1
        (' ' :: ((Datum.renderItems (e :: items)).toList ++ ')' :: rest)) (by simp [Follows])
      have htext : (Datum.renderItems (d :: e :: items)).toList ++ ')' :: rest =
          d.render.toList ++ ' ' :: ((Datum.renderItems (e :: items)).toList ++ ')' :: rest) := by
        simp [Datum.renderItems]
      rw [htext, takeItems_of_takeDatum (by decide) hd, ← takeItems_skipBlanks,
        skipBlanks_layout (by decide), takeItems_skipBlanks, hmore]
      rfl

end

theorem read_render {d : Datum} (h : d.WellRead) :
    read d.render.toList = .ok (some (d.reread, [])) := by
  have htake := takeDatum_render d h [] (by simp [Follows])
  rw [List.append_nil] at htake
  obtain ⟨p, hp, hneutral⟩ := taking_neutral.1 _ _ _ htake
  have hbalance : balance d.render.toList = .balanced := by
    rw [hp, hneutral.balance]
    rfl
  exact read_of_takeDatum hbalance htake

/-- Whatever was read is printed as the text of exactly one datum. It comes back unchanged, in the
strict sense and up to the comparison of numbers, if and only if it holds no infinite number and
no character that its literals write by its code. -/
theorem read_printed {text rest : List Char} {d : Datum}
    (h : read text = .ok (some (d, rest))) :
    ∃ d', read d.render.toList = .ok (some (d', [])) ∧
      (d' = d ↔ d.Lossless) ∧ (d'.agrees d = true ↔ d.Lossless) := by
  have hwell : d.WellRead := taking_wellRead.1 _ _ _ (read_eq_some h).2
  have hagrees : d.reread = d → d.reread.agrees d = true := by
    intro he
    rw [he]
    exact d.agrees_self hwell
  refine ⟨d.reread, read_render hwell, ⟨?_, d.reread_of_lossless⟩, ⟨d.lossless_of_agrees, ?_⟩⟩
  · exact fun he => d.lossless_of_agrees (hagrees he)
  · exact fun hl => hagrees (d.reread_of_lossless hl)

/-- An infinite number in a list does not come back. -/
theorem read_printed_infinite :
    read "(x 1e999)".toList = .ok (some (.list [.symbol "x", .number (1 / 0)], [])) ∧
      ¬ (Datum.list [.symbol "x", .number (1 / 0)]).Lossless ∧
      ∃ d', read (Datum.list [.symbol "x", .number (1 / 0)]).render.toList = .ok (some (d', [])) ∧
        d' ≠ .list [.symbol "x", .number (1 / 0)] := by
  have hx : takeDatum "x 1e999)".toList = some (.symbol "x", " 1e999)".toList) :=
    takeDatum_of_takeAtom rfl
  have hn : takeDatum " 1e999)".toList = some (.number (1 / 0), [')']) := by
    rw [← takeDatum_skipBlanks]
    change takeDatum (skipBlanks (' ' :: "1e999)".toList)) = _
    rw [skipBlanks_layout (by decide), takeDatum_skipBlanks]
    exact takeDatum_of_takeAtom rfl
  have hclose : takeItems ')' [')'] = some ([], []) := by
    rw [takeItems_cons (skipBlanks_stop (by decide) (by decide) []), if_pos rfl]
  have hitems : takeItems ')' "x 1e999)".toList =
      some ([.symbol "x", .number (1 / 0)], []) := by
    rw [takeItems_of_takeDatum (by decide) hx, takeItems_of_takeDatum (by decide) hn, hclose]
    rfl
  have hread : read "(x 1e999)".toList =
      .ok (some (.list [.symbol "x", .number (1 / 0)], [])) := by
    apply read_of_takeDatum (by decide)
    change takeDatum ('(' :: "x 1e999)".toList) = _
    rw [takeDatum_cons (skipBlanks_stop (by decide) (by decide) _)]
    simp only [closerOf, hitems, Option.map_some]
  have hlossy : ¬ (Datum.list [.symbol "x", .number (1 / 0)]).Lossless :=
    fun h => h.2.1 false rfl
  obtain ⟨d', hd', hsame, -⟩ := read_printed hread
  exact ⟨hread, hlossy, d', hd', fun he => hlossy (hsame.1 he)⟩

end ArrowLisp
