import ArrowLisp.Proofs.DatumGrammar
import ArrowLisp.Proofs.JoinedTexts

/-!
# Texts in plain layout

A text is put into plain layout character by character: commas and comments become spaces, brackets
become round ones, and literals stay as they are. The rewriting looks at one character at a time and
knows only whether it stands in code, in a comment or in a literal. The reader looks for whole data.
Both agree on where each of them ends, so a text that reads to its end gives the same data in plain
layout.
-/

namespace ArrowLisp

/-- What a character of code becomes in plain layout. -/
def plainCode : Char → Char
  | ',' => ' '
  | ';' => ' '
  | '[' => '('
  | '{' => '('
  | ']' => ')'
  | '}' => ')'
  | c => c

/-- What a character becomes in plain layout. A comment is blanked out up to its line break. -/
def Region.plainChar : Region → Char → Char
  | .code, c => plainCode c
  | .comment, c => if c = '\n' then '\n' else ' '
  | .literal _, c => c

/-- Plain layout of a text that starts in a region. -/
def plainLayoutFrom : Region → List Char → List Char
  | _, [] => []
  | r, c :: cs => r.plainChar c :: plainLayoutFrom (r.next c) cs

/-- Plain layout of a whole text. -/
def plainLayout (t : List Char) : List Char :=
  plainLayoutFrom .code t

/-! ## One character of code -/

theorem plainCode_word {c : Char} (h : isWordChar c = true) : plainCode c = c := by
  unfold plainCode
  split
  all_goals first | rfl | exact absurd h (by decide)

/-- No other character becomes one of a word. -/
theorem isWordChar_plainCode (c : Char) : isWordChar (plainCode c) = isWordChar c := by
  unfold plainCode
  split <;> rfl

theorem next_plain {c : Char} (h : isPlain c = true) : Region.code.next c = .code := by
  have hq : c ≠ '"' := by rintro rfl; cases h
  have hs : c ≠ ';' := by rintro rfl; cases h
  simp [Region.next, hq, hs]

theorem plainCode_opener {c closer : Char} (h : closerOf c = some closer) :
    plainCode c = '(' ∧ Region.code.next c = .code := by
  unfold closerOf at h
  split at h
  · decide
  · decide
  · decide
  · cases h

theorem plainCode_closer {c : Char} (h : isCloser c = true) :
    plainCode c = ')' ∧ Region.code.next c = .code := by
  simp only [isCloser, Bool.or_eq_true, decide_eq_true_eq] at h
  rcases h with (rfl | rfl) | rfl <;> decide

theorem isLayout_plainCode {c : Char} (h : isLayout c = true) : isLayout (plainCode c) = true := by
  rcases isLayout_iff.1 h with rfl | rfl | rfl | rfl | rfl <;> decide

theorem plainCode_not_layout {c : Char} (hs : c ≠ ';') (hl : isLayout c = false) :
    plainCode c ≠ ';' ∧ isLayout (plainCode c) = false := by
  unfold plainCode
  split
  all_goals first | exact ⟨hs, hl⟩ | decide | contradiction

theorem isPlain_plainCode {c : Char} (h : isPlain c = true) : isPlain (plainCode c) = true := by
  unfold plainCode
  split
  all_goals first | exact h | decide

theorem isDelimiter_plainCode {c : Char} (h : isDelimiter c = true) :
    isDelimiter (plainCode c) = true := by
  unfold plainCode
  split <;> exact h

/-- The characters of code one by one. -/
theorem plainLayout_cons (c : Char) (cs : List Char) :
    plainLayout (c :: cs) = plainCode c :: plainLayoutFrom (Region.code.next c) cs :=
  rfl

/-! ## Blanks -/

/-- A comment is skipped in either form. -/
theorem skipBlanks_plainLayout_comment (cs : List Char) :
    skipBlanks (plainLayoutFrom .comment cs) =
      skipBlanks (plainLayout (cs.dropWhile (· ≠ '\n'))) := by
  induction cs with
  | nil => rfl
  | cons c cs ih =>
      by_cases hc : c = '\n'
      · subst hc
        rfl
      · have hfrom : plainLayoutFrom .comment (c :: cs) = ' ' :: plainLayoutFrom .comment cs := by
          simp [plainLayoutFrom, Region.plainChar, Region.next, hc]
        have hdrop : (c :: cs).dropWhile (· ≠ '\n') = cs.dropWhile (· ≠ '\n') :=
          List.dropWhile_cons_of_pos (by simpa using hc)
        rw [hfrom, hdrop, skipBlanks_layout rfl, ih]

/-- What is skipped before a datum is skipped in plain layout, and no more than that. -/
theorem skipBlanks_plainLayout (cs : List Char) :
    skipBlanks (plainLayout cs) = plainLayout (skipBlanks cs) := by
  fun_induction skipBlanks cs with
  | case1 => exact skipBlanks_nil
  | case2 cs ih =>
      have hopen : plainLayout (';' :: cs) = ' ' :: plainLayoutFrom .comment cs := rfl
      rw [hopen, skipBlanks_layout rfl, skipBlanks_plainLayout_comment, ih]
  | case3 c cs _ hl ih =>
      have hlayout := isLayout_iff.2 hl
      rw [plainLayout_cons, skipBlanks_layout (isLayout_plainCode hlayout),
        next_plain (isPlain_of_isLayout hlayout)]
      exact ih
  | case4 c cs hs hl =>
      have hnot : isLayout c = false := by
        cases hb : isLayout c with
        | false => rfl
        | true => exact absurd (isLayout_iff.1 hb) hl
      obtain ⟨hs', hl'⟩ := plainCode_not_layout hs hnot
      exact skipBlanks_stop hs' hl' _

/-! ## Atoms -/

theorem plainLayout_cons_word {c : Char} (h : isWordChar c = true) (cs : List Char) :
    plainLayout (c :: cs) = c :: plainLayout cs := by
  have hplain : isPlain c = true := (Bool.and_eq_true_iff.1 h).1
  rw [plainLayout_cons, plainCode_word h, next_plain hplain]
  rfl

theorem plainLayout_word_append {word : List Char} (h : ∀ c ∈ word, isWordChar c = true)
    (rest : List Char) : plainLayout (word ++ rest) = word ++ plainLayout rest := by
  induction word with
  | nil => rfl
  | cons c word ih =>
      have hrest := ih fun d hd => h d (List.mem_cons_of_mem c hd)
      rw [List.cons_append, plainLayout_cons_word (h c List.mem_cons_self), hrest, List.cons_append]

/-- The words at the front of a text and of its plain layout are the same. -/
theorem prefix_plainLayout_iff {word cs : List Char} (h : ∀ c ∈ word, isWordChar c = true) :
    word <+: plainLayout cs ↔ word <+: cs := by
  induction word generalizing cs with
  | nil => simp
  | cons d word ih =>
      have hd := h d List.mem_cons_self
      cases cs with
      | nil => rfl
      | cons c cs =>
          by_cases hc : isWordChar c = true
          · have hword : word <+: plainLayout cs ↔ word <+: cs :=
              ih fun e he => h e (List.mem_cons_of_mem d he)
            rw [plainLayout_cons_word hc, List.cons_prefix_cons, List.cons_prefix_cons, hword]
          · -- A character of a word stands at neither front.
            have hplain : d ≠ plainCode c := by
              intro he
              rw [he, isWordChar_plainCode] at hd
              exact hc hd
            have hsame : d ≠ c := by
              intro he
              exact hc (he ▸ hd)
            rw [plainLayout_cons, List.cons_prefix_cons, List.cons_prefix_cons]
            exact ⟨fun hp => absurd hp.1 hplain, fun hp => absurd hp.1 hsame⟩

theorem LongestFront.plainLayout {P : List Char → Prop}
    (hP : ∀ q, P q → ∀ c ∈ q, isWordChar c = true) {p rest : List Char}
    (h : LongestFront P p rest) : LongestFront P p (plainLayout rest) := by
  refine ⟨h.1, fun q hq hfront => h.2 q hq ?_⟩
  rw [← plainLayout_word_append (hP p h.1)] at hfront
  exact (prefix_plainLayout_iff (hP q hq)).1 hfront

theorem IsRun.word {q : List Char} (h : IsRun SymbolChar q) : ∀ c ∈ q, isWordChar c = true :=
  fun c hc => isWordChar_of_class (by decide) (by decide) (symbolChar_iff.1 (h.2 c hc))

theorem isNumeral_word {q : List Char} (h : Number.IsNumeral q) :
    ∀ c ∈ q, isWordChar c = true := by
  obtain ⟨n, rfl⟩ := h
  exact fun c hc => isWordChar_of_class (by decide) (by decide) (n.numeralChar c hc)

theorem atDelimiter_plainLayout {rest : List Char} (h : atDelimiter rest = true) :
    atDelimiter (plainLayout rest) = true := by
  cases rest with
  | nil => rfl
  | cons c rest => exact isDelimiter_plainCode h

theorem LiteralBody.plainLayoutFrom {raw body : List Char} (h : LiteralBody raw body)
    (rest : List Char) :
    plainLayoutFrom (.literal false) (raw ++ '"' :: rest) = raw ++ '"' :: plainLayout rest := by
  induction h with
  | nil => rfl
  | @plain c raw body hq hb _ ih =>
      have hnext : (Region.literal false).next c = .literal false := by
        simp [Region.next, hq, hb]
      show c :: ArrowLisp.plainLayoutFrom ((Region.literal false).next c) (raw ++ '"' :: rest) = _
      rw [hnext, ih, List.cons_append]
  | @escaped c d raw body _ _ ih =>
      show '\\' :: c :: ArrowLisp.plainLayoutFrom (.literal false) (raw ++ '"' :: rest) = _
      rw [ih, List.cons_append, List.cons_append]

/-- An atom is left as it is, and what follows it keeps it from going on as before. -/
theorem Atom.plainLayout {p rest : List Char} {d : Datum} (h : Atom p rest d) :
    Atom p (plainLayout rest) d ∧
      ArrowLisp.plainLayout (p ++ rest) = p ++ ArrowLisp.plainLayout rest := by
  cases h with
  | number n hlongest hdelim =>
      refine ⟨.number n (hlongest.plainLayout fun q => isNumeral_word) ?_, ?_⟩
      · exact atDelimiter_iff.1 (atDelimiter_plainLayout (atDelimiter_iff.2 hdelim))
      · exact plainLayout_word_append (isNumeral_word ⟨n, rfl⟩) rest
  | @text raw body _ hraw =>
      refine ⟨.text hraw, ?_⟩
      have htext : ∀ more, '"' :: raw ++ ['"'] ++ more = '"' :: (raw ++ '"' :: more) := by simp
      rw [htext, htext, ← hraw.plainLayoutFrom rest]
      rfl
  | symbol hnumeral hlongest =>
      have hsplit := plainLayout_word_append hlongest.1.word rest
      refine ⟨.symbol (fun q hfront hq => ?_) (hlongest.plainLayout fun q => IsRun.word), hsplit⟩
      rw [← hsplit, prefix_plainLayout_iff (isNumeral_word hq)] at hfront
      exact hnumeral q hfront hq

theorem takeAtom_plainLayout {cs rest : List Char} {d : Datum} (h : takeAtom cs = some (d, rest)) :
    takeAtom (plainLayout cs) = some (d, plainLayout rest) := by
  obtain ⟨p, rfl, hatom⟩ := exists_atom h
  obtain ⟨hplain, hsplit⟩ := hatom.plainLayout
  rw [hsplit]
  exact hplain.takeAtom

/-! ## Lists -/

theorem plainLayout_opener {c closer : Char} (h : closerOf c = some closer) (cs : List Char) :
    plainLayout (c :: cs) = '(' :: plainLayout cs := by
  rw [plainLayout_cons, (plainCode_opener h).1, (plainCode_opener h).2]
  rfl

theorem plainLayout_closer {c : Char} (h : isCloser c = true) (cs : List Char) :
    plainLayout (c :: cs) = ')' :: plainLayout cs := by
  rw [plainLayout_cons, (plainCode_closer h).1, (plainCode_closer h).2]
  rfl

/-- A datum is taken off the plain layout of a text as it is taken off the text. -/
theorem taking_plainLayout :
    (∀ cs d rest, takeDatum cs = some (d, rest) →
      takeDatum (plainLayout cs) = some (d, plainLayout rest)) ∧
    (∀ closer cs items rest, takeItems closer cs = some (items, rest) → isCloser closer = true →
      takeItems ')' (plainLayout cs) = some (items, plainLayout rest)) := by
  apply taking_induction
  case atom =>
    intro cs tail rest c d hskip _ hatom
    have hplain := takeAtom_plainLayout hatom
    rw [← hskip, ← skipBlanks_plainLayout] at hplain
    rw [← takeDatum_skipBlanks]
    exact takeDatum_of_takeAtom hplain
  case list =>
    intro cs tail rest c closer items hskip hc hitems
    have hskip' := skipBlanks_plainLayout cs
    rw [hskip, plainLayout_opener hc] at hskip'
    rw [takeDatum_cons hskip']
    simp only [closerOf, hitems (isCloser_of_closerOf hc), Option.map_some]
  case close =>
    intro closer cs rest hskip hk
    have hskip' := skipBlanks_plainLayout cs
    rw [hskip, plainLayout_closer hk] at hskip'
    rw [takeItems_cons hskip', if_pos rfl]
  case item =>
    intro closer cs mid rest d items hd hitems hk
    rw [takeItems_of_takeDatum rfl hd, hitems hk, Option.map_some]

/-! ## The bracket check -/

/-- A comment is code in plain layout. -/
def Region.plain : Region → Region
  | .comment => .code
  | r => r

/-- The scan over a plain layout meets no comments and is owed round brackets only. -/
def ScanState.plain (st : ScanState) : ScanState :=
  ⟨st.region.plain, st.owed.map fun _ => ')'⟩

/-- No comment starts in a literal. -/
theorem plain_next_literal (escaped : Bool) (c : Char) :
    ((Region.literal escaped).next c).plain = (Region.literal escaped).next c := by
  cases escaped with
  | true => rfl
  | false =>
      simp only [Region.next]
      split_ifs <;> rfl

/-- A step in code, by the kind of the character. -/
theorem step_code_plainLayout {owed : List Char} {c : Char} {st' : ScanState}
    (h : ScanState.step ⟨.code, owed⟩ c = .ok st') :
    ScanState.step ⟨.code, owed.map fun _ => ')'⟩ (plainCode c) = .ok st'.plain := by
  by_cases hq : c = '"'
  · subst hq
    cases h
    rfl
  by_cases hs : c = ';'
  · subst hs
    cases h
    exact step_plain (by decide) _
  cases hc : closerOf c with
  | some closer =>
      rw [step_opener hc] at h
      cases h
      rw [(plainCode_opener hc).1]
      rfl
  | none =>
      cases hk : isCloser c with
      | true =>
          rw [(plainCode_closer hk).1]
          cases owed with
          | nil => simp [ScanState.step, owedAfter, hc, hk, Except.map] at h
          | cons expected owed =>
              by_cases he : expected = c
              · simp only [ScanState.step, owedAfter, hc, hk, he, if_true, Except.map,
                  (plainCode_closer hk).2, Except.ok.injEq] at h
                rw [← h]
                rfl
              · simp [ScanState.step, owedAfter, hc, hk, he, Except.map] at h
      | false =>
          have hplain : isPlain c = true := by simp [isPlain, hq, hs, hc, hk]
          rw [step_plain hplain] at h
          cases h
          exact step_plain (isPlain_plainCode hplain) _

/-- The two scans keep step. -/
theorem step_plainLayout {st st' : ScanState} {c : Char} (h : st.step c = .ok st') :
    st.plain.step (st.region.plainChar c) = .ok st'.plain := by
  obtain ⟨region, owed⟩ := st
  cases region with
  | code => exact step_code_plainLayout h
  | comment =>
      cases h
      show ScanState.step ⟨.code, _⟩ (if c = '\n' then '\n' else ' ') =
        .ok ⟨(if c = '\n' then .code else .comment : Region).plain, _⟩
      split_ifs
      · exact step_plain (by decide) _
      · exact step_plain (by decide) _
  | literal escaped =>
      cases h
      show Except.ok _ = Except.ok (ScanState.mk ((Region.literal escaped).next c).plain _)
      rw [plain_next_literal]
      rfl

theorem run_plainLayout {st st' : ScanState} {cs : List Char} (h : st.run cs = .ok st') :
    st.plain.run (plainLayoutFrom st.region cs) = .ok st'.plain := by
  induction cs generalizing st with
  | nil =>
      cases h
      rfl
  | cons c cs ih =>
      cases hs : st.step c with
      | error v => simp [ScanState.run, hs, Except.bind] at h
      | ok mid =>
          have hrun : mid.run cs = .ok st' := by simpa [ScanState.run, hs, Except.bind] using h
          have hrest := ih hrun
          rw [ScanState.region_step hs] at hrest
          simpa [plainLayoutFrom, ScanState.run, step_plainLayout hs, Except.bind] using hrest

theorem balance_plainLayout {t : List Char} (h : balance t = .balanced) :
    balance (plainLayout t) = .balanced := by
  obtain ⟨r, hr, hrun⟩ := run_of_balanced h
  have hplain : ScanState.start.run (plainLayout t) = .ok ⟨.code, []⟩ := by
    have hrun' := run_plainLayout hrun
    rcases hr with rfl | rfl
    · exact hrun'
    · exact hrun'
  have hend := balance_of_ok hplain []
  rwa [List.append_nil] at hend

/-! ## Whole texts -/

theorem read_plainLayout {t rest : List Char} {d : Datum} (h : read t = .ok (some (d, rest))) :
    read (plainLayout t) = .ok (some (d, plainLayout rest)) := by
  obtain ⟨hb, hd⟩ := read_eq_some h
  exact read_of_takeDatum (balance_plainLayout hb) (taking_plainLayout.1 t d rest hd)

theorem read_plainLayout_none {t : List Char} (h : read t = .ok none) :
    read (plainLayout t) = .ok none := by
  apply read_nil
  rw [skipBlanks_plainLayout, skipBlanks_of_read_none h]
  rfl

/-- Layout and the kind of brackets never change what is read: a text that reads to its end gives
the same data in plain layout. -/
theorem readAll_plainLayout {t : List Char} {ds : List Datum} (h : readAll t = .ok ds) :
    readAll (plainLayout t) = .ok ds := by
  induction ds generalizing t with
  | nil =>
      rcases readAll_ok_cases h with ⟨hread, -⟩ | ⟨d, rest, ds', -, -, hds⟩
      · exact readAll_of_none (read_plainLayout_none hread)
      · cases hds
  | cons d ds ih =>
      rcases readAll_ok_cases h with ⟨-, hds⟩ | ⟨d', rest, ds', hread, hrest, hds⟩
      · cases hds
      · obtain ⟨rfl, rfl⟩ := List.cons.inj hds
        rw [readAll_of_some (read_plainLayout hread), ih hrest]
        rfl

/-- Three kinds of brackets, commas, a comment with a quote in it, and a literal that looks like
both. Each delimiter follows a number or a symbol at once. -/
theorem readAll_plainLayout_mixed :
    plainLayout "[f,-.5\x7bx;\"(\n\x7d\",;[\\\"\"]-;)".toList =
      "(f -.5(x   \n)\",;[\\\"\")-  ".toList ∧
    readAll "(f -.5(x   \n)\",;[\\\"\")-  ".toList =
      .ok [.list [.symbol "f", .number minusHalf.value, .list [.symbol "x"], .text ",;[\""],
        .symbol "-"] := by
  have hplain : plainLayout "[f,-.5\x7bx;\"(\n\x7d\",;[\\\"\"]-;)".toList =
      "(f -.5(x   \n)\",;[\\\"\")-  ".toList := by decide
  have hread : readAll "[f,-.5\x7bx;\"(\n\x7d\",;[\\\"\"]-;)".toList =
      .ok [.list [.symbol "f", .number minusHalf.value, .list [.symbol "x"], .text ",;[\""],
        .symbol "-"] := by with_unfolding_all rfl
  have h := readAll_plainLayout hread
  rw [hplain] at h
  exact ⟨hplain, h⟩

end ArrowLisp
