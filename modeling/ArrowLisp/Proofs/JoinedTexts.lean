import ArrowLisp.Proofs.Completing

/-!
# Texts joined by a newline

A newline ends every token and every comment, so a text that reads to its end can be followed by a
newline and any other text: its data are read as before, and what is left is read as if it stood
alone. The newline matters: without it a number, a symbol or a comment would go on.
-/

namespace ArrowLisp

/-! ## Blanks before more text -/

theorem Filler.append {p q : List Char} (hp : Filler p) (hq : Filler q) : Filler (p ++ q) := by
  induction hp with
  | nil => exact hq
  | layout hc _ ih => exact .layout hc ih
  | @comment r p hr _ ih =>
      have hcomment := Filler.comment hr ih
      simpa using hcomment

theorem Filler.skipBlanks {p : List Char} (hp : Filler p) (cs : List Char) :
    skipBlanks (p ++ cs) = skipBlanks cs := by
  induction hp with
  | nil => rfl
  | layout hc _ ih => rw [List.cons_append, skipBlanks_layout hc, ih]
  | @comment q p hq _ ih =>
      have hdrop : (q ++ '\n' :: (p ++ cs)).dropWhile (· ≠ '\n') = '\n' :: (p ++ cs) :=
        (Number.span_append (by simpa using hq) (by simp)).2
      have htext : ';' :: q ++ '\n' :: p ++ cs = ';' :: (q ++ '\n' :: (p ++ cs)) := by simp
      rw [htext, ArrowLisp.skipBlanks, hdrop, skipBlanks_layout rfl, ih]

theorem skipBlanks_append_of_cons {cs tail : List Char} {c : Char} (h : skipBlanks cs = c :: tail)
    (more : List Char) : skipBlanks (cs ++ more) = c :: (tail ++ more) := by
  obtain ⟨p, rfl, hp⟩ := skipBlanks_filler h
  obtain ⟨hs, hl⟩ := skipBlanks_head h
  rw [List.append_assoc, hp.skipBlanks]
  exact skipBlanks_stop hs hl _

/-- Where nothing but blanks and comments is left, a newline ends the last comment too. -/
theorem filler_newline {cs : List Char} (h : skipBlanks cs = []) : Filler (cs ++ ['\n']) := by
  obtain ⟨p, hp, hcs | ⟨-, q, rfl, hq⟩⟩ := skipBlanks_split cs
  · rw [hcs, h, List.append_nil]
    exact hp.append (.layout rfl .nil)
  · have hcomment : Filler (';' :: q ++ '\n' :: []) := .comment hq .nil
    rw [List.append_assoc]
    exact hp.append hcomment

section Newline

variable (b : List Char)

theorem skipBlanks_newline {cs : List Char} (h : skipBlanks cs = []) :
    skipBlanks (cs ++ '\n' :: b) = skipBlanks b := by
  have hfill := (filler_newline h).skipBlanks b
  rwa [List.append_assoc] at hfill

/-! ## Data before a newline -/

theorem readLiteral_append {cs body rest : List Char} (h : readLiteral cs = some (body, rest))
    (more : List Char) : readLiteral (cs ++ more) = some (body, rest ++ more) := by
  fun_induction readLiteral cs generalizing body with
  | case1 => cases h
  | case2 cs =>
      simp only [Option.some.injEq, Prod.mk.injEq] at h
      obtain ⟨rfl, rfl⟩ := h
      rfl
  | case3 => cases h
  | case4 c cs ih =>
      obtain ⟨⟨body', rest'⟩, hp, he⟩ := Option.map_eq_some_iff.1 h
      obtain ⟨rfl, rfl⟩ := Prod.mk.inj he
      simp [readLiteral, ih hp]
  | case5 c cs hquote _ hescape ih =>
      obtain ⟨⟨body', rest'⟩, hp, he⟩ := Option.map_eq_some_iff.1 h
      obtain ⟨rfl, rfl⟩ := Prod.mk.inj he
      have hb : c ≠ '\\' := by
        rintro rfl
        cases cs with
        | nil => cases hp
        | cons d cs => exact hescape d cs rfl rfl
      rw [List.cons_append, readLiteral, ih hp]
      · rfl
      · exact hquote
      · exact fun hc _ => hb hc
      · exact fun _ _ hc _ => hb hc

theorem atDelimiter_newline {rest : List Char} (h : atDelimiter rest = true) :
    atDelimiter (rest ++ '\n' :: b) = true := by
  cases rest with
  | nil => show isDelimiter '\n' = true; decide
  | cons c rest => exact h

theorem takeAtom_newline {cs rest : List Char} {d : Datum} (h : takeAtom cs = some (d, rest)) :
    takeAtom (cs ++ '\n' :: b) = some (d, rest ++ '\n' :: b) := by
  have hmore : atDelimiter ('\n' :: b) = true := @atDelimiter_newline b [] rfl
  rcases takeAtom_cases h with ⟨n, rfl, hrest, rfl⟩ | ⟨tail, body, rfl, hbody, rfl⟩ |
    ⟨c, tail, rfl, hn, hc, hd, rfl, rfl⟩
  · rw [List.append_assoc]
    exact takeAtom_number n (atDelimiter_newline b hrest)
  · exact takeAtom_literal (readLiteral_append hbody _)
  · have hnone := Number.takeNumeral_none_append hn (endsNumeral_of_atDelimiter hmore)
    have hsplit : c :: tail ++ '\n' :: b =
        c :: tail.takeWhile isSymbolChar ++ (tail.dropWhile isSymbolChar ++ '\n' :: b) := by
      have htail := List.takeWhile_append_dropWhile (p := isSymbolChar) (l := tail)
      calc c :: tail ++ '\n' :: b
          = c :: (tail.takeWhile isSymbolChar ++ tail.dropWhile isSymbolChar) ++ '\n' :: b := by
            rw [htail]
        _ = _ := by simp only [List.cons_append, List.append_assoc]
    rw [hsplit] at hnone ⊢
    apply takeAtom_symbol hnone hd
    · intro e he
      rcases List.mem_cons.1 he with rfl | he
      · exact hc
      · exact List.mem_takeWhile_imp he
    · intro e he
      have hstop := List.head?_dropWhile_not isSymbolChar tail
      cases hdrop : tail.dropWhile isSymbolChar with
      | nil =>
          rw [hdrop] at he
          obtain rfl : '\n' = e := by simpa using he
          decide
      | cons f rest =>
          rw [hdrop] at he hstop
          obtain rfl : f = e := by simpa using he
          exact hstop

/-- A datum is taken off a text as before when a newline and more text follow. -/
theorem taking_newline :
    (∀ cs d rest, takeDatum cs = some (d, rest) →
      takeDatum (cs ++ '\n' :: b) = some (d, rest ++ '\n' :: b)) ∧
    (∀ closer cs items rest, takeItems closer cs = some (items, rest) → isCloser closer = true →
      takeItems closer (cs ++ '\n' :: b) = some (items, rest ++ '\n' :: b)) := by
  apply taking_induction
  case atom =>
    intro cs tail rest c d hskip hc hatom
    have hmore := takeAtom_newline b hatom
    rw [takeDatum_cons (skipBlanks_append_of_cons hskip _), hc]
    exact hmore
  case list =>
    intro cs tail rest c closer items hskip hc hitems
    rw [takeDatum_cons (skipBlanks_append_of_cons hskip _), hc]
    simp only [hitems (isCloser_of_closerOf hc), Option.map_some]
  case close =>
    intro closer cs rest hskip _
    rw [takeItems_cons (skipBlanks_append_of_cons hskip _), if_pos rfl]
  case item =>
    intro closer cs mid rest d items hd hitems hk
    rw [takeItems_of_takeDatum hk hd, hitems hk, Option.map_some]

/-! ## The bracket check before a newline -/

/-- A balanced text owes nothing and ends in code or in a comment. -/
theorem run_of_balanced {a : List Char} (h : balance a = .balanced) :
    ∃ r, (r = .code ∨ r = .comment) ∧ ScanState.start.run a = .ok ⟨r, []⟩ := by
  rcases ScanState.start.run_cases a ScanState.owesClosers_start with ⟨v, hrun, hv⟩ | ⟨st, hrun, -⟩
  · have hend := balance_of_error hrun []
    rw [List.append_nil, h] at hend
    rw [← hend] at hv
    cases hv
  · have hend := balance_of_ok hrun []
    rw [List.append_nil, h, scanBalance_nil] at hend
    obtain ⟨region, owed⟩ := st
    cases owed with
    | cons c owed => cases region <;> cases hend
    | nil =>
        cases region with
        | code => exact ⟨_, Or.inl rfl, hrun⟩
        | comment => exact ⟨_, Or.inr rfl, hrun⟩
        | literal escaped => cases hend

theorem balance_newline {a : List Char} (h : balance a = .balanced) :
    balance (a ++ '\n' :: b) = balance b := by
  obtain ⟨r, hr, hrun⟩ := run_of_balanced h
  rw [balance_of_ok hrun]
  rcases hr with rfl | rfl
  · rfl
  · rfl

/-! ## Reads before a newline -/

theorem read_newline_of_some {a rest : List Char} {d : Datum} (h : read a = .ok (some (d, rest)))
    (hb : balance b = .balanced) :
    read (a ++ '\n' :: b) = .ok (some (d, rest ++ '\n' :: b)) := by
  obtain ⟨ha, hd⟩ := read_eq_some h
  apply read_of_takeDatum
  · rw [balance_newline b ha, hb]
  · exact (taking_newline b).1 a d rest hd

theorem read_newline_of_none {a : List Char} (h : read a = .ok none) :
    read (a ++ '\n' :: b) = read b := by
  have hskip := skipBlanks_newline b (skipBlanks_of_read_none h)
  unfold read
  rw [hskip]

theorem readAll_congr {cs cs' : List Char} (h : read cs = read cs') : readAll cs = readAll cs' := by
  cases hread : read cs' with
  | error e => rw [readAll_of_error hread, readAll_of_error (h.trans hread)]
  | ok r =>
      cases r with
      | none => rw [readAll_of_none hread, readAll_of_none (h.trans hread)]
      | some p => rw [readAll_of_some hread, readAll_of_some (h.trans hread)]

theorem readAll_newline_of_balanced {a : List Char} {xs : List Datum} (ha : readAll a = .ok xs)
    (hb : balance b = .balanced) : readAll (a ++ '\n' :: b) = (readAll b).map (xs ++ ·) := by
  induction xs generalizing a with
  | nil =>
      rcases readAll_ok_cases ha with ⟨hread, -⟩ | ⟨_, _, _, -, -, hds⟩
      · rw [readAll_congr (read_newline_of_none b hread)]
        cases readAll b <;> rfl
      · cases hds
  | cons d xs ih =>
      rcases readAll_ok_cases ha with ⟨-, hds⟩ | ⟨d', rest, ds', hread, hrest, hds⟩
      · cases hds
      · obtain ⟨rfl, rfl⟩ := List.cons.inj hds
        rw [readAll_of_some (read_newline_of_some b hread hb), ih hrest]
        cases readAll b <;> rfl

/-- After a text that reads to its end and a newline, a text is read as if it stood alone: it gives
its data after the others, or its own error. -/
theorem readAll_newline {a : List Char} {xs : List Datum} (ha : readAll a = .ok xs) :
    readAll (a ++ '\n' :: b) = (readAll b).map (xs ++ ·) := by
  cases hv : (balance b).error? with
  | none => exact readAll_newline_of_balanced b ha (Balance.error?_eq_none_iff.1 hv)
  | some e =>
      -- The bracket check of the first read goes over both texts.
      have hjoined : (balance (a ++ '\n' :: b)).error? = some e := by
        rw [balance_newline b (balance_of_readAll ha), hv]
      rw [readAll_of_error (read_of_unbalanced hv), readAll_of_error (read_of_unbalanced hjoined)]
      rfl

end Newline

/-- The data of two texts joined by a newline are those of the first, then those of the second. -/
theorem readAll_joined (a b : List Char) (xs ys : List Datum) (ha : readAll a = .ok xs)
    (hb : readAll b = .ok ys) : readAll (a ++ "\n".toList ++ b) = .ok (xs ++ ys) := by
  rw [List.append_assoc]
  show readAll (a ++ '\n' :: b) = _
  rw [readAll_newline b ha, hb]
  rfl

/-- A text that ends in a comment with an open bracket, before one that starts with a minus sign. -/
theorem readAll_joined_comment :
    readAll "[f \"a\\\\\"]x;(".toList = .ok [.list [.symbol "f", .text "a\\"], .symbol "x"] ∧
    readAll "-".toList = .ok [.symbol "-"] ∧
    readAll "[f \"a\\\\\"]x;(\n-".toList =
      .ok [.list [.symbol "f", .text "a\\"], .symbol "x", .symbol "-"] := by
  have ha : readAll "[f \"a\\\\\"]x;(".toList =
      .ok [.list [.symbol "f", .text "a\\"], .symbol "x"] := by with_unfolding_all rfl
  have hb : readAll "-".toList = .ok [.symbol "-"] := by with_unfolding_all rfl
  exact ⟨ha, hb, readAll_joined _ _ _ _ ha hb⟩

end ArrowLisp
