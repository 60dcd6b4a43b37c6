import ArrowLisp.Proofs.CleanText

/-!
# The grammar of data

What texts write which datum, said without a reader and with tables of its own. A numeral and a
symbol reach as far as they can, a numeral ends before a delimiter, a literal ends at the first
quote that is not escaped, and a list is a row of data between two brackets of one kind. Whether a
front part of a text writes a datum depends on the text after it, so that text is an argument of
every rule. The reader takes a datum off a text exactly if the grammar has it there.
-/

namespace ArrowLisp

/-! ## Longest front parts -/

/-- Of the front parts of `p ++ rest` that have the property, `p` is the longest. -/
def LongestFront (P : List Char → Prop) (p rest : List Char) : Prop :=
  P p ∧ ∀ q, P q → q <+: p ++ rest → q.length ≤ p.length

/-- The recogniser takes the longest numeral there is. -/
theorem longestFront_numeral_iff {p rest : List Char} :
    LongestFront Number.IsNumeral p rest ↔ Number.takeNumeral (p ++ rest) = some (p, rest) := by
  constructor
  · intro h
    obtain ⟨⟨n, rfl⟩, hlongest⟩ := h
    obtain ⟨extra, rest', hrest, htake⟩ := Number.takeNumeral_extends n rest
    obtain ⟨m, hm, hsplit⟩ := Number.takeNumeral_split htake
    have hle := hlongest _ ⟨m, hm⟩ ⟨rest', hsplit.symm⟩
    rw [List.length_append] at hle
    obtain rfl : extra = [] := List.eq_nil_of_length_eq_zero (by omega)
    rw [htake, List.append_nil, hrest, List.nil_append]
  · intro h
    obtain ⟨m, hm, -⟩ := Number.takeNumeral_split h
    refine ⟨⟨m, hm⟩, ?_⟩
    intro q hq hfront
    obtain ⟨n, rfl⟩ := hq
    obtain ⟨tail, htail⟩ := hfront
    obtain ⟨extra, rest', -, htake⟩ := Number.takeNumeral_extends n tail
    rw [htail, h] at htake
    obtain ⟨rfl, -⟩ := Prod.mk.inj (Option.some.inj htake)
    rw [List.length_append]
    omega

/-- The recogniser finds nothing only where no numeral starts. -/
theorem takeNumeral_eq_none_iff {cs : List Char} :
    Number.takeNumeral cs = none ↔ ∀ q, q <+: cs → ¬Number.IsNumeral q := by
  constructor
  · intro h q hfront hq
    obtain ⟨n, rfl⟩ := hq
    obtain ⟨tail, rfl⟩ := hfront
    exact Number.takeNumeral_text_ne_none n tail h
  · intro h
    cases htake : Number.takeNumeral cs with
    | none => rfl
    | some p =>
        obtain ⟨n, hn, hcs⟩ := Number.takeNumeral_split htake
        exact absurd ⟨n, hn⟩ (h p.1 ⟨p.2, hcs.symm⟩)

/-- A non-empty row of characters of a class. -/
def IsRun (P : Char → Prop) (cs : List Char) : Prop :=
  cs ≠ [] ∧ ∀ c ∈ cs, P c

/-- A run is the longest one if the next character does not belong to it. -/
theorem longestFront_run_iff {P : Char → Prop} {word rest : List Char} :
    LongestFront (IsRun P) word rest ↔ IsRun P word ∧ ∀ c ∈ rest.head?, ¬P c := by
  constructor
  · intro h
    refine ⟨h.1, fun c hc hp => ?_⟩
    obtain ⟨tail, rfl⟩ : ∃ tail, rest = c :: tail := List.head?_eq_some_iff.1 hc
    have hrun : IsRun P (word ++ [c]) := by
      refine ⟨by simp, fun d hd => ?_⟩
      rcases List.mem_append.1 hd with hd | hd
      · exact h.1.2 d hd
      · exact List.mem_singleton.1 hd ▸ hp
    have hle := h.2 _ hrun ⟨tail, by simp⟩
    rw [List.length_append, List.length_singleton] at hle
    omega
  · intro h
    refine ⟨h.1, fun q hq hfront => ?_⟩
    obtain ⟨tail, htail⟩ := hfront
    rcases List.append_eq_append_iff.1 htail with ⟨more, hmore, -⟩ | ⟨more, hmore, hrest⟩
    · rw [hmore, List.length_append]
      omega
    · -- A longer run would go on into the rest.
      cases more with
      | nil => rw [hmore, List.append_nil]
      | cons c more =>
          have hc := hq.2 c (by rw [hmore]; simp)
          exact absurd hc (h.2 c (by rw [hrest]; rfl))

/-! ## Tables of characters -/

/-- The characters that may follow a number. -/
def Delimits (c : Char) : Prop :=
  Text.isBlank c = true ∨ c ∈ ['(', ')', '[', ']', '{', '}', ';', ',']

/-- The characters of symbols: Unicode letters and digits, and some signs. -/
def SymbolChar (c : Char) : Prop :=
  Text.isAlphanumeric c = true ∨ c ∈ ['-', '_', '+', '*', '/', '=', '<', '>', '?', '!', '%']

/-- A character after a backslash, and the character that the two stand for. -/
inductive Escape : Char → Char → Prop
  | newline : Escape 'n' '\n'
  | carriageReturn : Escape 'r' '\r'
  | tab : Escape 't' '\t'
  | itself {c : Char} : c ≠ 'n' → c ≠ 'r' → c ≠ 't' → Escape c c

/-- An opening bracket and the closing bracket of its kind. -/
inductive Brackets : Char → Char → Prop
  | round : Brackets '(' ')'
  | square : Brackets '[' ']'
  | curly : Brackets '{' '}'

theorem brackets_iff {opener closer : Char} :
    Brackets opener closer ↔ closerOf opener = some closer := by
  constructor
  · intro h
    cases h <;> rfl
  · intro h
    unfold closerOf at h
    split at h
    · cases h; exact .round
    · cases h; exact .square
    · cases h; exact .curly
    · cases h

theorem atDelimiter_iff {rest : List Char} :
    atDelimiter rest = true ↔ ∀ c ∈ rest.head?, Delimits c := by
  cases rest with
  | nil => simp [atDelimiter]
  | cons c rest =>
      have hopener : (closerOf c).isSome = true ↔ c = '(' ∨ c = '[' ∨ c = '{' := by
        rw [Option.isSome_iff_exists]
        constructor
        · rintro ⟨closer, h⟩
          cases brackets_iff.2 h <;> decide
        · rintro (rfl | rfl | rfl) <;> exact ⟨_, rfl⟩
      simp only [atDelimiter, isDelimiter, isCloser, Bool.or_eq_true, hopener, decide_eq_true_eq,
        Delimits, List.head?_cons, Option.mem_some_iff, forall_eq', List.mem_cons,
        List.not_mem_nil, or_false]
      grind

theorem symbolChar_iff {c : Char} : SymbolChar c ↔ isSymbolChar c = true := by
  rw [isSymbolChar, Bool.or_eq_true, List.contains_iff_mem]
  rfl

theorem escape_iff {c d : Char} : Escape c d ↔ unescape c = d := by
  constructor
  · intro h
    cases h with
    | itself hn hr ht =>
        unfold unescape
        split <;> simp_all
    | _ => rfl
  · rintro rfl
    unfold unescape
    split
    · exact .newline
    · exact .carriageReturn
    · exact .tab
    · next hn hr ht => exact .itself hn hr ht

/-! ## Rules for atoms -/

/-- The body of a literal as it is written, and the text that it stands for. -/
inductive LiteralBody : List Char → List Char → Prop
  | nil : LiteralBody [] []
  | plain {c : Char} {raw body : List Char} :
      c ≠ '"' → c ≠ '\\' → LiteralBody raw body → LiteralBody (c :: raw) (c :: body)
  | escaped {c d : Char} {raw body : List Char} :
      Escape c d → LiteralBody raw body → LiteralBody ('\\' :: c :: raw) (d :: body)

/-- The atoms, each with the text that it writes and the text after it. -/
inductive Atom : List Char → List Char → Datum → Prop
  | number (n : Number.Numeral) {rest : List Char} :
      LongestFront Number.IsNumeral n.text rest → (∀ c ∈ rest.head?, Delimits c) →
      Atom n.text rest (.number n.value)
  | text {raw body rest : List Char} :
      LiteralBody raw body → Atom ('"' :: raw ++ ['"']) rest (.text (String.ofList body))
  | symbol {word rest : List Char} :
      (∀ q, q <+: word ++ rest → ¬Number.IsNumeral q) →
      LongestFront (IsRun SymbolChar) word rest → Atom word rest (.symbol (String.ofList word))

theorem LiteralBody.readLiteral {raw body : List Char} (h : LiteralBody raw body)
    (rest : List Char) : readLiteral (raw ++ '"' :: rest) = some (body, rest) := by
  induction h with
  | nil => rfl
  | @plain c raw body hq hb _ ih =>
      rw [List.cons_append, ArrowLisp.readLiteral, ih, Option.map_some]
      · exact hq
      · exact fun he _ => hb he
      · exact fun _ _ he _ => hb he
  | @escaped c d raw body hescape _ ih =>
      rw [List.cons_append, List.cons_append, ArrowLisp.readLiteral, ih, Option.map_some,
        escape_iff.1 hescape]

theorem exists_literalBody {cs body rest : List Char} (h : readLiteral cs = some (body, rest)) :
    ∃ raw, cs = raw ++ '"' :: rest ∧ LiteralBody raw body := by
  fun_induction readLiteral cs generalizing body with
  | case1 => cases h
  | case2 cs =>
      cases h
      exact ⟨[], rfl, .nil⟩
  | case3 => cases h
  | case4 c cs ih =>
      obtain ⟨p, hp, he⟩ := Option.map_eq_some_iff.1 h
      cases he
      obtain ⟨raw, rfl, hraw⟩ := ih hp
      exact ⟨'\\' :: c :: raw, rfl, .escaped (escape_iff.2 rfl) hraw⟩
  | case5 c cs hquote hlast hescape ih =>
      obtain ⟨p, hp, he⟩ := Option.map_eq_some_iff.1 h
      cases he
      obtain ⟨raw, rfl, hraw⟩ := ih hp
      refine ⟨c :: raw, rfl, .plain (fun hc => hquote hc) (fun hc => ?_) hraw⟩
      -- A backslash has a character after it, at least the closing quote.
      obtain ⟨d, tail, htail⟩ : ∃ d tail, raw ++ '"' :: p.2 = d :: tail :=
        List.exists_cons_of_ne_nil (by simp)
      exact hescape d tail hc htail

theorem Atom.takeAtom {p rest : List Char} {d : Datum} (h : Atom p rest d) :
    takeAtom (p ++ rest) = some (d, rest) := by
  cases h with
  | number n _ hdelim => exact takeAtom_number n (atDelimiter_iff.2 hdelim)
  | text hraw => simpa using takeAtom_literal (hraw.readLiteral rest)
  | symbol hnumeral hlongest =>
      obtain ⟨⟨hne, hword⟩, hend⟩ := longestFront_run_iff.1 hlongest
      obtain ⟨c, tail, rfl⟩ := List.exists_cons_of_ne_nil hne
      refine takeAtom_symbol (takeNumeral_eq_none_iff.2 hnumeral) ?_
        (fun d hd => symbolChar_iff.1 (hword d hd))
        (fun d hd => Bool.eq_false_iff.2 fun hd' => hend d hd (symbolChar_iff.2 hd'))
      cases hd : c.isDigit with
      | false => rfl
      | true =>
          -- A digit alone would be a numeral.
          have hdigit : Number.IsNumeral [c] :=
            ⟨⟨false, [c], none, none, by simpa using hd, by simp, by simp⟩, rfl⟩
          exact absurd hdigit (hnumeral [c] ⟨tail ++ rest, rfl⟩)

theorem exists_atom {cs rest : List Char} {d : Datum} (h : takeAtom cs = some (d, rest)) :
    ∃ p, cs = p ++ rest ∧ Atom p rest d := by
  rcases takeAtom_cases h with ⟨n, hcs, hdelim, rfl⟩ | ⟨tail, body, rfl, hbody, rfl⟩ |
    ⟨c, tail, rfl, hnumeral, hc, -, rfl, rfl⟩
  · have htake := Number.takeNumeral_append n (endsNumeral_of_atDelimiter hdelim)
    exact ⟨n.text, hcs, .number n (longestFront_numeral_iff.2 htake) (atDelimiter_iff.1 hdelim)⟩
  · obtain ⟨raw, rfl, hraw⟩ := exists_literalBody hbody
    exact ⟨'"' :: raw ++ ['"'], by simp, .text hraw⟩
  · have hsplit : c :: tail =
        c :: tail.takeWhile isSymbolChar ++ tail.dropWhile isSymbolChar := by
      rw [List.cons_append, List.takeWhile_append_dropWhile]
    refine ⟨_, hsplit, .symbol ?_ (longestFront_run_iff.2 ⟨⟨by simp, ?_⟩, ?_⟩)⟩
    · rw [← hsplit]
      exact takeNumeral_eq_none_iff.1 hnumeral
    · intro e he
      rcases List.mem_cons.1 he with rfl | he
      · exact symbolChar_iff.2 hc
      · exact symbolChar_iff.2 (List.mem_takeWhile_imp he)
    · intro e he
      have hnot := List.head?_dropWhile_not isSymbolChar tail
      rw [he] at hnot
      simpa [symbolChar_iff] using hnot

/-! ## Rules for lists -/

/-- Blanks and comments before the text that follows. A comment goes up to the next line break, or
to the end of the text. -/
inductive Blanks : List Char → List Char → Prop
  | nil {rest : List Char} : Blanks [] rest
  | blank {c : Char} {p rest : List Char} :
      isLayout c = true → Blanks p rest → Blanks (c :: p) rest
  | comment {q p rest : List Char} :
      (∀ c ∈ q, c ≠ '\n') → (∀ c ∈ (p ++ rest).head?, c = '\n') → Blanks p rest →
      Blanks (';' :: q ++ p) rest

mutual

/-- The text `p` writes the datum before the text `rest`. -/
inductive Derives : List Char → List Char → Datum → Prop
  | atom {p rest : List Char} {d : Datum} : Atom p rest d → Derives p rest d
  | list {opener closer : Char} {inner rest : List Char} {items : List Datum} :
      Brackets opener closer → DerivesItems closer inner rest items →
      Derives (opener :: inner ++ [closer]) rest (.list items)

/-- The text `inner` writes the data before a closing bracket, which `rest` comes after. -/
inductive DerivesItems : Char → List Char → List Char → List Datum → Prop
  | nil {closer : Char} {blanks rest : List Char} :
      Blanks blanks (closer :: rest) → DerivesItems closer blanks rest []
  | cons {closer : Char} {blanks p more rest : List Char} {d : Datum} {items : List Datum} :
      Blanks blanks (p ++ (more ++ closer :: rest)) → Derives p (more ++ closer :: rest) d →
      DerivesItems closer more rest items →
      DerivesItems closer (blanks ++ p ++ more) rest (d :: items)

end

theorem Blanks.skipBlanks {p rest : List Char} (h : Blanks p rest) :
    skipBlanks (p ++ rest) = skipBlanks rest := by
  induction h with
  | nil => rfl
  | blank hc _ ih => rw [List.cons_append, skipBlanks_layout hc, ih]
  | @comment q p rest hq hend _ ih =>
      have hdrop : (q ++ (p ++ rest)).dropWhile (· ≠ '\n') = p ++ rest :=
        (Number.span_append (by simpa using hq) (by simpa using hend)).2
      rw [List.append_assoc, List.cons_append, ArrowLisp.skipBlanks, hdrop, ih]

theorem exists_blanks (cs : List Char) :
    ∃ p, cs = p ++ skipBlanks cs ∧ Blanks p (skipBlanks cs) := by
  fun_induction skipBlanks cs with
  | case1 => exact ⟨[], rfl, .nil⟩
  | case2 cs ih =>
      obtain ⟨p, hcs, hp⟩ := ih
      have hsplit := List.takeWhile_append_dropWhile (p := (· ≠ '\n')) (l := cs)
      refine ⟨';' :: cs.takeWhile (· ≠ '\n') ++ p, ?_,
        .comment (fun c hc => ?_) (fun c hc => ?_) hp⟩
      · rw [List.append_assoc, ← hcs, List.cons_append, hsplit]
      · simpa using List.mem_takeWhile_imp hc
      · have hnot := List.head?_dropWhile_not (· ≠ '\n') cs
        rw [← hcs] at hc
        rw [hc] at hnot
        simpa using hnot
  | case3 c cs _ hl ih =>
      obtain ⟨p, hcs, hp⟩ := ih
      exact ⟨c :: p, by rw [List.cons_append, ← hcs], .blank (isLayout_iff.2 hl) hp⟩
  | case4 c cs _ _ => exact ⟨[], rfl, .nil⟩

/-- Before a text without blanks at its front there are none to be skipped. -/
theorem Blanks.eq_nil {p rest : List Char} (h : Blanks p rest)
    (hp : ∀ c ∈ p.head?, isLayout c = false ∧ c ≠ ';') : p = [] := by
  cases h with
  | nil => rfl
  | @blank c p _ hc _ =>
      rw [(hp c rfl).1] at hc
      cases hc
  | comment _ _ _ => exact absurd rfl (hp ';' rfl).2

/-! ## The reader follows the grammar -/

/-- Nothing is skipped before an opening bracket. -/
theorem skipBlanks_opener {opener closer : Char} (h : closerOf opener = some closer)
    (cs : List Char) : skipBlanks (opener :: cs) = opener :: cs := by
  unfold closerOf at h
  split at h
  · exact skipBlanks_stop (by decide) rfl cs
  · exact skipBlanks_stop (by decide) rfl cs
  · exact skipBlanks_stop (by decide) rfl cs
  · cases h

theorem skipBlanks_closer {opener closer : Char} (h : closerOf opener = some closer)
    (cs : List Char) : skipBlanks (closer :: cs) = closer :: cs := by
  rcases closer_cases h with rfl | rfl | rfl <;> exact skipBlanks_stop (by decide) rfl cs

mutual

/-- What the grammar has at the front of a text is taken off it. -/
theorem Derives.takeDatum {p rest : List Char} {d : Datum} :
    Derives p rest d → takeDatum (p ++ rest) = some (d, rest)
  | .atom h => takeDatum_of_takeAtom h.takeAtom
  | @Derives.list opener closer inner _ items hc hitems => by
      have htext : opener :: inner ++ [closer] ++ rest = opener :: (inner ++ closer :: rest) := by
        simp
      have hcloser := brackets_iff.1 hc
      rw [htext, takeDatum_cons (skipBlanks_opener hcloser _)]
      simp only [hcloser, hitems.takeItems hcloser, Option.map_some]

theorem DerivesItems.takeItems {opener closer : Char} {inner rest : List Char}
    {items : List Datum} :
    DerivesItems closer inner rest items → closerOf opener = some closer →
      takeItems closer (inner ++ closer :: rest) = some (items, rest)
  | .nil hblanks, hc => by
      have hskip := hblanks.skipBlanks.trans (skipBlanks_closer hc rest)
      rw [takeItems_cons hskip, if_pos rfl]
  | @DerivesItems.cons _ blanks p more _ d items hblanks hd hmore, hc => by
      have htext : blanks ++ p ++ more ++ closer :: rest =
          blanks ++ (p ++ (more ++ closer :: rest)) := by
        simp
      rw [htext, ← takeItems_skipBlanks, hblanks.skipBlanks, takeItems_skipBlanks,
        takeItems_of_takeDatum (isCloser_of_closerOf hc) hd.takeDatum, hmore.takeItems hc,
        Option.map_some]

end

/-- What is taken off a text the grammar has there, after blanks. -/
theorem taking_derives :
    (∀ cs d rest, takeDatum cs = some (d, rest) →
      ∃ blanks p, cs = blanks ++ (p ++ rest) ∧ Blanks blanks (p ++ rest) ∧ Derives p rest d) ∧
    (∀ closer cs items rest, takeItems closer cs = some (items, rest) →
      ∃ inner, cs = inner ++ closer :: rest ∧ DerivesItems closer inner rest items) := by
  apply taking_induction
  case atom =>
    intro cs tail rest c d hskip _ hatom
    obtain ⟨blanks, hcs, hblanks⟩ := exists_blanks cs
    obtain ⟨p, hp, hd⟩ := exists_atom hatom
    rw [hskip, hp] at hcs hblanks
    exact ⟨blanks, p, hcs, hblanks, .atom hd⟩
  case list =>
    intro cs tail rest c closer items hskip hc hitems
    obtain ⟨blanks, hcs, hblanks⟩ := exists_blanks cs
    obtain ⟨inner, rfl, hitems⟩ := hitems
    have htext : c :: (inner ++ closer :: rest) = c :: inner ++ [closer] ++ rest := by simp
    rw [hskip, htext] at hcs hblanks
    exact ⟨blanks, _, hcs, hblanks, .list (brackets_iff.2 hc) hitems⟩
  case close =>
    intro closer cs rest hskip
    obtain ⟨blanks, hcs, hblanks⟩ := exists_blanks cs
    rw [hskip] at hcs hblanks
    exact ⟨blanks, hcs, .nil hblanks⟩
  case item =>
    intro closer cs mid rest d items hd hitems
    obtain ⟨blanks, p, rfl, hblanks, hd⟩ := hd
    obtain ⟨more, rfl, hmore⟩ := hitems
    exact ⟨blanks ++ p ++ more, by simp, .cons hblanks hd hmore⟩

/-- The reader accepts exactly its grammar: off a text that starts neither with a blank nor with a
comment it takes a datum and leaves the rest if and only if the text before the rest writes that
datum there. -/
theorem takeDatum_iff_derives {t : List Char}
    (ht : ∀ c ∈ t.head?, isLayout c = false ∧ c ≠ ';') (d : Datum) (rest : List Char) :
    takeDatum t = some (d, rest) ↔ ∃ p, t = p ++ rest ∧ Derives p rest d := by
  constructor
  · intro h
    obtain ⟨blanks, p, rfl, hblanks, hd⟩ := taking_derives.1 t d rest h
    have hnil : blanks = [] := by
      refine hblanks.eq_nil fun c hc => ht c ?_
      obtain ⟨tail, rfl⟩ := List.head?_eq_some_iff.1 hc
      rfl
    exact ⟨p, by rw [hnil, List.nil_append], hd⟩
  · intro h
    obtain ⟨p, rfl, hd⟩ := h
    exact hd.takeDatum

/-- The numeral `-.5`. -/
def minusHalf : Number.Numeral :=
  ⟨true, [], some ['5'], none, by simp, by simp, by simp⟩

/-- A list whose items touch each other, with all kinds of escapes in a literal and a bracket in a
comment before the last item. -/
theorem touching_items_derived :
    ∃ p, "[a\"\\n\\r\\t\\q\\\"\"-.5(b); ]\n-]x".toList = p ++ ['x'] ∧
      Derives p ['x'] (.list [.symbol "a", .text "\n\r\tq\"", .number (-0.5),
        .list [.symbol "b"], .symbol "-"]) := by
  have hhalf : minusHalf.value = -0.5 := by decide +kernel
  rw [← hhalf]
  refine (takeDatum_iff_derives ?_ _ _).1 ?_
  · intro c hc
    cases hc
    decide
  · with_unfolding_all rfl

end ArrowLisp
