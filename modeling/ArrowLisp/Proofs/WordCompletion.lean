import ArrowLisp.Proofs.FlatScope
import ArrowLisp.Session.Completion

/-!
# Completing a word

The word to complete is what stands between the last separator before the cursor and the cursor.
Offsets count bytes. An offset of a text falls between two characters, inside a character or past
the end, and the text can be cut there in the first case only. So there is an answer unless the
cursor is not between two characters, or the byte after the last separator is not the start of a
character since the separator has more than one byte. The answer lists all that goes on from the
word and nothing else.
-/

namespace ArrowLisp

namespace Text

/-! ## Offsets -/

theorem foldl_utf8Size (cs : List Char) (n : Nat) :
    cs.foldl (fun n c => n + c.utf8Size) n = n + byteLength cs := by
  unfold byteLength
  induction cs generalizing n with
  | nil => rfl
  | cons c cs ih =>
      rw [List.foldl_cons, ih, List.foldl_cons, ih (0 + _)]
      omega

@[simp] theorem byteLength_nil : byteLength [] = 0 := rfl

@[simp] theorem byteLength_cons (c : Char) (cs : List Char) :
    byteLength (c :: cs) = c.utf8Size + byteLength cs := by
  rw [byteLength, List.foldl_cons, foldl_utf8Size]
  omega

@[simp] theorem byteLength_append (cs ds : List Char) :
    byteLength (cs ++ ds) = byteLength cs + byteLength ds := by
  rw [byteLength, List.foldl_append, foldl_utf8Size]
  rfl

/-- The text is what was cut off and what is left, and what was cut off has that many bytes. -/
theorem of_splitAtByte {n : Nat} {cs front rest : List Char}
    (h : splitAtByte n cs = some (front, rest)) : cs = front ++ rest ∧ byteLength front = n := by
  fun_induction splitAtByte n cs generalizing front with
  | case1 cs =>
      obtain ⟨rfl, rfl⟩ := Prod.mk.inj (Option.some.inj h)
      exact ⟨rfl, rfl⟩
  | case2 n => cases h
  | case3 n c cs hle ih =>
      obtain ⟨⟨front', rest'⟩, hcut, heq⟩ := Option.map_eq_some_iff.1 h
      obtain ⟨rfl, rfl⟩ := Prod.mk.inj heq
      obtain ⟨rfl, hlength⟩ := ih hcut
      refine ⟨rfl, ?_⟩
      show byteLength (c :: front') = n + 1
      rw [byteLength_cons]
      omega
  | case4 n c cs hlt => cases h

/-- A text can be cut behind every front of it. -/
theorem splitAtByte_append (front rest : List Char) :
    splitAtByte (byteLength front) (front ++ rest) = some (front, rest) := by
  induction front with
  | nil => rw [byteLength_nil, List.nil_append, splitAtByte]
  | cons c front ih =>
      obtain ⟨n, hn⟩ : ∃ n, c.utf8Size + byteLength front = n + 1 :=
        Nat.exists_eq_add_one.2 (by have := c.utf8Size_pos; omega)
      have hleft : n + 1 - c.utf8Size = byteLength front := by omega
      rw [byteLength_cons, List.cons_append, hn, splitAtByte, if_pos (by omega), hleft, ih]
      rfl

/-- There is no cut past the end or inside a character, and anywhere else there is one. -/
theorem splitAtByte_eq_none_iff {n : Nat} {cs : List Char} :
    splitAtByte n cs = none ↔ byteLength cs < n ∨
      ∃ front c rest, cs = front ++ c :: rest ∧ byteLength front < n ∧
        n < byteLength front + c.utf8Size := by
  constructor
  · intro h
    fun_induction splitAtByte n cs with
    | case1 cs => cases h
    | case2 n => exact Or.inl (Nat.succ_pos n)
    | case3 n c cs hle ih =>
        rcases ih (Option.map_eq_none_iff.1 h) with hpast | ⟨front, d, rest, rfl, hlow, hhigh⟩
        · left
          rw [byteLength_cons]
          omega
        · right
          refine ⟨c :: front, d, rest, rfl, ?_, ?_⟩ <;> rw [byteLength_cons] <;> omega
    | case4 n c cs hlt => exact Or.inr ⟨[], c, cs, rfl, Nat.succ_pos n, by simp; omega⟩
  · intro h
    rw [Option.eq_none_iff_forall_ne_some]
    rintro ⟨front, rest⟩ hcut
    obtain ⟨rfl, hlength⟩ := of_splitAtByte hcut
    rcases h with hpast | ⟨front', c, rest', heq, hlow, hhigh⟩
    · rw [byteLength_append] at hpast
      omega
    · -- The two fronts are ordered, so one character lies wholly before or wholly behind the cut.
      rcases List.append_eq_append_iff.1 heq with ⟨more, rfl, -⟩ | ⟨more, rfl, hmore⟩
      · rw [byteLength_append] at hlow
        omega
      · cases more with
        | nil =>
            rw [List.append_nil] at hlength
            omega
        | cons d more =>
            obtain ⟨rfl, -⟩ := List.cons.inj hmore
            rw [byteLength_append, byteLength_cons] at hlength
            omega

theorem lastOffset?_eq_none {p : Char → Bool} {cs : List Char} (h : ∀ c ∈ cs, p c = false) :
    lastOffset? p cs = none := by
  induction cs with
  | nil => rfl
  | cons c cs ih =>
      rw [List.forall_mem_cons] at h
      simp [lastOffset?, ih h.2, h.1]

theorem lastOffset?_append {p : Char → Bool} {c : Char} (hc : p c = true) {rest : List Char}
    (hrest : ∀ d ∈ rest, p d = false) (front : List Char) :
    lastOffset? p (front ++ c :: rest) = some (byteLength front) := by
  induction front with
  | nil => simp [lastOffset?, lastOffset?_eq_none hrest, hc]
  | cons d front ih => rw [List.cons_append, lastOffset?, ih, byteLength_cons]

/-- A text without a character of the class, or cut at the last one of them. -/
theorem exists_last (p : Char → Bool) (cs : List Char) :
    (∀ c ∈ cs, p c = false) ∨
      ∃ front c rest, cs = front ++ c :: rest ∧ p c = true ∧ ∀ d ∈ rest, p d = false := by
  cases hfind : cs.reverse.find? p with
  | none => exact Or.inl (by simpa using hfind)
  | some c =>
      obtain ⟨hc, rest, front, hcs, hrest⟩ := List.find?_eq_some_iff_append.1 hfind
      refine Or.inr ⟨front.reverse, c, rest.reverse, ?_, hc, by simpa using hrest⟩
      rw [← List.reverse_reverse cs, hcs]
      simp

end Text

namespace Session

/-! ## The word before the cursor -/

/-- The characters between words: Unicode blanks, brackets and commas. -/
def Separates (c : Char) : Prop :=
  Text.isBlank c = true ∨ c ∈ ['(', ')', '[', ']', '{', '}', ',']

theorem separates_iff {c : Char} : Separates c ↔ isSeparator c = true := by
  rw [isSeparator, Bool.or_eq_true, List.contains_iff_mem]
  rfl

/-- A line with the cursor at an offset: the text up to and with the last separator before the
cursor, the word from there to the cursor, and the text behind the cursor. -/
structure WordAt (line : List Char) (pos : Nat) (before word after : List Char) : Prop where
  line_eq : line = before ++ word ++ after
  pos_eq : Text.byteLength (before ++ word) = pos
  word_plain : ∀ c ∈ word, ¬Separates c
  before_last : ∀ c ∈ before.getLast?, Separates c

/-- Where the line can be cut at the cursor, there is a word before the cursor. -/
theorem exists_wordAt {line head after : List Char} {pos : Nat}
    (h : Text.splitAtByte pos line = some (head, after)) :
    ∃ before word, WordAt line pos before word after := by
  obtain ⟨rfl, hpos⟩ := Text.of_splitAtByte h
  rcases Text.exists_last isSeparator head with hplain | ⟨front, c, word, rfl, hc, hplain⟩
  · exact ⟨[], head, rfl, hpos, by simpa [separates_iff] using hplain, by simp⟩
  · refine ⟨front ++ [c], word, ?_, ?_, by simpa [separates_iff] using hplain, ?_⟩
    · simp
    · rw [← hpos]
      simp
    · simpa [separates_iff] using hc

namespace WordAt

variable {line before word after : List Char} {pos : Nat}

theorem splitAtByte_line (h : WordAt line pos before word after) :
    Text.splitAtByte pos line = some (before ++ word, after) := by
  rw [h.line_eq, ← h.pos_eq, Text.splitAtByte_append]

theorem isSeparator_word (h : WordAt line pos before word after) :
    ∀ c ∈ word, isSeparator c = false :=
  fun c hc => Bool.eq_false_iff.2 fun hsep => h.word_plain c hc (separates_iff.2 hsep)

/-- The start of the word is one byte behind the start of the separator. -/
theorem wordStart_behind {front : List Char} {c : Char}
    (h : WordAt line pos (front ++ [c]) word after) :
    wordStart (front ++ c :: word) = Text.byteLength front + 1 := by
  have hc : isSeparator c = true := separates_iff.1 (h.before_last c (by simp))
  rw [wordStart, Text.lastOffset?_append hc h.isSeparator_word]

end WordAt

/-! ## What is offered -/

/-- What is offered for a word that starts at an offset: nothing for the empty word, the commands
that go on from a word with a colon at the start of the line, in the order of their table, and
otherwise the names of the top level that go on from it, in alphabetical order. -/
inductive Offers (start : Nat) (word : List Char) (texts : List String) : Prop
  | nothing : word = [] → texts = [] → Offers start word texts
  | commands : start = 0 → word.head? = some ':' → texts.Sublist commandNames →
      (∀ text, text ∈ texts ↔ text ∈ commandNames ∧ word <+: text.toList) →
      Offers start word texts
  | names : word ≠ [] → ¬(start = 0 ∧ word.head? = some ':') → texts.Pairwise (· < ·) →
      (∀ text, text ∈ texts ↔ text ∈ Scope.topLevel.names ∧ word <+: text.toList) →
      Offers start word texts

theorem mem_extensionsOf {word : List Char} {names : List String} {text : String} :
    text ∈ extensionsOf word names ↔ text ∈ names ∧ word <+: text.toList := by
  rw [extensionsOf, List.mem_filter, List.isPrefixOf_iff_prefix]

theorem eraseReps_loop {α : Type} [BEq α] [LawfulBEq α] {a : α} {as : List α}
    (h : (a :: as).Nodup) (acc : List α) :
    List.eraseRepsBy.loop (· == ·) a as acc = acc.reverse ++ a :: as := by
  induction as generalizing a acc with
  | nil => simp [List.eraseRepsBy.loop]
  | cons b as ih =>
      have hne : (a == b) = false := by
        rw [beq_eq_false_iff_ne]
        intro heq
        exact (List.nodup_cons.1 h).1 (by simp [heq])
      rw [List.eraseRepsBy.loop, hne, ih h.of_cons, List.reverse_cons, List.append_assoc]
      rfl

theorem eraseReps_of_nodup {α : Type} [BEq α] [LawfulBEq α] {as : List α} (h : as.Nodup) :
    as.eraseReps = as := by
  cases as with
  | nil => rfl
  | cons a as => exact eraseReps_loop h []

/-- Sorting the names brings no two of them together that are the same. -/
theorem completionNames_eq :
    completionNames = Scope.topLevel.names.mergeSort fun a b => decide (a ≤ b) :=
  eraseReps_of_nodup ((List.mergeSort_perm _ _).nodup_iff.2 Scope.topLevel.nodup_names)

theorem mem_completionNames {name : String} :
    name ∈ completionNames ↔ name ∈ Scope.topLevel.names := by
  rw [completionNames_eq, List.mem_mergeSort]

/-- The names of the top level stand in alphabetical order, each of them once. -/
theorem pairwise_completionNames : completionNames.Pairwise (· < ·) := by
  have hsorted : completionNames.Pairwise fun a b => decide (a ≤ b) = true := by
    rw [completionNames_eq]
    refine List.pairwise_mergeSort (fun a b c hab hbc => ?_) (fun a b => ?_) _
    · rw [decide_eq_true_iff] at hab hbc ⊢
      exact String.le_trans hab hbc
    · simpa using String.le_total a b
  have hnodup : completionNames.Nodup := by
    rw [completionNames_eq]
    exact (List.mergeSort_perm _ _).nodup_iff.2 Scope.topLevel.nodup_names
  refine (hsorted.and hnodup).imp fun {a b} ⟨hle, hne⟩ => ?_
  exact String.not_le.1 fun hge => hne (String.le_antisymm (of_decide_eq_true hle) hge)

/-- The texts that are offered for a word. -/
def offered (start : Nat) (word : List Char) : List String :=
  if word.isEmpty then []
  else extensionsOf word
    (if start = 0 ∧ word.head? = some ':' then commandNames else completionNames)

theorem offers_offered (start : Nat) (word : List Char) :
    Offers start word (offered start word) := by
  cases word with
  | nil => exact .nothing rfl rfl
  | cons c word =>
      rw [offered, if_neg (by simp)]
      by_cases hcommand : start = 0 ∧ (c :: word).head? = some ':'
      · rw [if_pos hcommand]
        exact .commands hcommand.1 hcommand.2 List.filter_sublist fun _ => mem_extensionsOf
      · rw [if_neg hcommand]
        refine .names (List.cons_ne_nil c word) hcommand (pairwise_completionNames.filter _) ?_
        intro text
        rw [mem_extensionsOf, mem_completionNames]

/-! ## Completion -/

theorem completeWord_of_none {line : List Char} {pos : Nat}
    (h : Text.splitAtByte pos line = none) : completeWord line pos = none := by
  rw [completeWord, h]
  rfl

/-- The answer where the start that is taken for the word can be cut at. -/
theorem completeWord_of_cut {line head after before word : List Char} {pos : Nat}
    (hline : Text.splitAtByte pos line = some (head, after))
    (hword : Text.splitAtByte (wordStart head) head = some (before, word)) :
    completeWord line pos =
      some ⟨wordStart head, (offered (wordStart head) word).map Candidate.ofWord⟩ := by
  obtain ⟨-, hpos⟩ := Text.of_splitAtByte hline
  obtain ⟨hhead, hstart⟩ := Text.of_splitAtByte hword
  rw [completeWord, hline]
  simp only [Option.bind_eq_bind, Option.bind_some, hword]
  cases word with
  | nil =>
      -- The empty word starts at the cursor, which is the offset given back for it.
      obtain rfl : pos = wordStart head := by rw [← hpos, ← hstart, hhead, List.append_nil]
      rfl
  | cons c word => rfl

variable {line before word after : List Char} {pos : Nat}

/-- There is an answer for a word behind a separator of one byte, or behind none. -/
theorem WordAt.completeWord_eq (h : WordAt line pos before word after)
    (hnarrow : ∀ c ∈ before.getLast?, c.utf8Size = 1) :
    completeWord line pos = some ⟨Text.byteLength before,
      (offered (Text.byteLength before) word).map Candidate.ofWord⟩ := by
  have hstart : wordStart (before ++ word) = Text.byteLength before := by
    rcases List.eq_nil_or_concat' before with rfl | ⟨front, c, rfl⟩
    · rw [wordStart, List.nil_append, Text.lastOffset?_eq_none h.isSeparator_word]
      rfl
    · have hc : c.utf8Size = 1 := hnarrow c (by simp)
      rw [List.append_assoc, List.singleton_append, h.wordStart_behind]
      simp [hc]
  have hword := Text.splitAtByte_append before word
  rw [← hstart] at hword ⊢
  exact completeWord_of_cut h.splitAtByte_line hword

/-- Behind a separator of more bytes the word is taken to start inside the separator. -/
theorem WordAt.completeWord_eq_none {front : List Char} {c : Char}
    (h : WordAt line pos (front ++ [c]) word after) (hwide : 1 < c.utf8Size) :
    completeWord line pos = none := by
  have hcut := h.splitAtByte_line
  rw [List.append_assoc, List.singleton_append] at hcut
  have hinside : Text.splitAtByte (wordStart (front ++ c :: word)) (front ++ c :: word) = none := by
    rw [h.wordStart_behind, Text.splitAtByte_eq_none_iff]
    exact Or.inr ⟨front, c, word, rfl, by omega, by omega⟩
  rw [completeWord, hcut]
  simp only [Option.bind_eq_bind, Option.bind_some, hinside, Option.bind_none]

/-- The last separator, if there is one, has one byte or more. -/
theorem wide_or_narrow (before : List Char) :
    (∃ front c, before = front ++ [c] ∧ 1 < c.utf8Size) ∨
      ∀ c ∈ before.getLast?, c.utf8Size = 1 := by
  rcases List.eq_nil_or_concat' before with rfl | ⟨front, c, rfl⟩
  · exact Or.inr (by simp)
  · have hpos := c.utf8Size_pos
    by_cases hwide : 1 < c.utf8Size
    · exact Or.inl ⟨front, c, rfl, hwide⟩
    · right
      intro d hd
      obtain rfl : c = d := by simpa using hd
      omega

theorem completeWord_eq_none_iff {line : List Char} {pos : Nat} :
    completeWord line pos = none ↔
      Text.byteLength line < pos ∨
      (∃ front c rest, line = front ++ c :: rest ∧ Text.byteLength front < pos ∧
        pos < Text.byteLength front + c.utf8Size) ∨
      ∃ front c word after, WordAt line pos (front ++ [c]) word after ∧ 1 < c.utf8Size := by
  rw [← or_assoc, ← Text.splitAtByte_eq_none_iff]
  constructor
  · intro hnone
    cases hcut : Text.splitAtByte pos line with
    | none => exact Or.inl rfl
    | some p =>
        obtain ⟨before, word, h⟩ := exists_wordAt hcut
        rcases wide_or_narrow before with ⟨front, c, rfl, hwide⟩ | hnarrow
        · exact Or.inr ⟨front, c, word, p.2, h, hwide⟩
        · rw [h.completeWord_eq hnarrow] at hnone
          cases hnone
  · rintro (hcut | ⟨front, c, word, after, h, hwide⟩)
    · exact completeWord_of_none hcut
    · exact h.completeWord_eq_none hwide

theorem of_completeWord {line : List Char} {pos : Nat} {found : Completion}
    (hfound : completeWord line pos = some found) :
    ∃ before word after, WordAt line pos before word after ∧
      found = ⟨Text.byteLength before,
        (offered (Text.byteLength before) word).map Candidate.ofWord⟩ := by
  cases hcut : Text.splitAtByte pos line with
  | none =>
      rw [completeWord_of_none hcut] at hfound
      cases hfound
  | some p =>
      obtain ⟨before, word, h⟩ := exists_wordAt hcut
      rcases wide_or_narrow before with ⟨front, c, rfl, hwide⟩ | hnarrow
      · rw [h.completeWord_eq_none hwide] at hfound
        cases hfound
      · rw [h.completeWord_eq hnarrow] at hfound
        exact ⟨before, word, p.2, h, (Option.some.inj hfound).symm⟩

/-- There is no answer exactly for a cursor past the end or inside a character, and behind a last
separator of more than one byte. Otherwise the answer is for the word before the cursor: it starts
right behind the last separator, or with the line if there is none, and each text that is offered
for it is both what is shown and what is put in. -/
theorem completeWord_exact (line : List Char) (pos : Nat) :
    (completeWord line pos = none ↔
      Text.byteLength line < pos ∨
      (∃ front c rest, line = front ++ c :: rest ∧ Text.byteLength front < pos ∧
        pos < Text.byteLength front + c.utf8Size) ∨
      ∃ front c word after, WordAt line pos (front ++ [c]) word after ∧ 1 < c.utf8Size) ∧
    ∀ found, completeWord line pos = some found →
      ∃ before word after texts, WordAt line pos before word after ∧
        found.start = Text.byteLength before ∧ Offers found.start word texts ∧
        found.candidates = texts.map fun text => { shown := text, replacement := text } := by
  refine ⟨completeWord_eq_none_iff, fun found hfound => ?_⟩
  obtain ⟨before, word, after, h, rfl⟩ := of_completeWord hfound
  exact ⟨before, word, after, _, h, rfl, offers_offered _ word, rfl⟩

/-- Two commands go on from a word that ends before a character of two bytes, and there is no answer
for the word behind a blank of two bytes. -/
theorem completeWord_between_wide :
    completeWord [':', 'h', 'é'] 2 =
      some ⟨0, [⟨":help", ":help"⟩, ⟨":history", ":history"⟩]⟩ ∧
    (∃ before word after, WordAt [':', 'h', 'é'] 2 before word after ∧
      0 = Text.byteLength before ∧ Offers 0 word [":help", ":history"]) ∧
    completeWord ['(', '\u00a0', 't'] 4 = none := by
  have hword : WordAt [':', 'h', 'é'] 2 [] [':', 'h'] ['é'] :=
    ⟨rfl, rfl, by simp [separates_iff]; decide, by simp⟩
  have hfound : completeWord [':', 'h', 'é'] 2 =
      some ⟨0, [⟨":help", ":help"⟩, ⟨":history", ":history"⟩]⟩ := hword.completeWord_eq (by simp)
  have hwide : WordAt ['(', '\u00a0', 't'] 4 (['('] ++ ['\u00a0']) ['t'] [] :=
    ⟨rfl, rfl, by simp [separates_iff]; decide, by simp [separates_iff]; decide⟩
  refine ⟨hfound, ?_, (completeWord_exact _ _).1.2 ?_⟩
  · obtain ⟨before, word, after, texts, h, hstart, hoffers, htexts⟩ :=
      (completeWord_exact _ _).2 _ hfound
    have hshown : [":help", ":history"] = texts := by
      simpa [Function.comp_def] using congrArg (List.map Candidate.shown) htexts
    exact ⟨before, word, after, h, hstart, hshown ▸ hoffers⟩
  · exact Or.inr (Or.inr ⟨_, _, _, _, hwide, by decide⟩)

end Session

end ArrowLisp
