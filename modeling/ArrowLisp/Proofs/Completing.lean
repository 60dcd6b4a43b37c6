import ArrowLisp.Proofs.CleanText

/-!
# Texts that can still be completed

The bracket scan fails for good or not at all. A scan that has met a fault gives the same verdict
whatever follows, and a scan that has met none can always be led back to code with nothing owed:
by a text that ends the literal or comment it stands in and then closes the brackets one by one. So
an incomplete text is one that some continuation completes.
-/

namespace ArrowLisp

/-! ## Faults -/

/-- The verdicts that a closing bracket forces. -/
inductive Balance.IsFault : Balance → Prop
  | stray : IsFault .stray
  | mismatched (expected found : Char) : IsFault (.mismatched expected found)

/-- The errors that a closing bracket forces. -/
inductive ParseError.IsBracketFault : ParseError → Prop
  | stray : IsBracketFault .strayCloser
  | wrong (expected found : Char) : IsBracketFault (.wrongCloser expected found)

/-- How a read words the verdict on the text before it. -/
def Balance.error? : Balance → Option ParseError
  | .balanced => none
  | .incomplete => some .incomplete
  | .stray => some .strayCloser
  | .mismatched expected found => some (.wrongCloser expected found)

theorem Balance.error?_eq_none_iff {v : Balance} : v.error? = none ↔ v = .balanced := by
  cases v <;> simp [error?]

theorem Balance.error?_eq_incomplete_iff {v : Balance} :
    v.error? = some .incomplete ↔ v = .incomplete := by
  cases v <;> simp [error?]

theorem Balance.isBracketFault_iff {v : Balance} {e : ParseError} (h : v.error? = some e) :
    e.IsBracketFault ↔ v.IsFault := by
  cases v with
  | balanced => cases h
  | incomplete => cases h; exact ⟨nofun, nofun⟩
  | stray => cases h; exact ⟨fun _ => .stray, fun _ => .stray⟩
  | mismatched expected found => cases h; exact ⟨fun _ => .mismatched _ _, fun _ => .wrong _ _⟩

/-- The bracket check comes first: its verdict is the result of the read. -/
theorem read_of_unbalanced {t : List Char} {e : ParseError} (h : (balance t).error? = some e) :
    read t = .error e := by
  cases hskip : skipBlanks t with
  | nil =>
      rw [← balance_skipBlanks, hskip] at h
      cases h
  | cons c tail =>
      rw [read_cons hskip]
      cases hb : balance t with
      | balanced => rw [hb] at h; cases h
      | incomplete => rw [hb] at h; cases h; rfl
      | stray => rw [hb] at h; cases h; rfl
      | mismatched expected found => rw [hb] at h; cases h; rfl

/-- A read fails with the verdict of the bracket check, or at a place that no datum starts at. -/
theorem error_of_read {t : List Char} {e : ParseError} (h : read t = .error e) :
    (balance t).error? = some e ∨ balance t = .balanced ∧ ∃ start, e = .unreadable start := by
  cases hv : (balance t).error? with
  | some e' =>
      rw [read_of_unbalanced hv] at h
      exact Or.inl (congrArg some (Except.error.inj h))
  | none =>
      have hb := Balance.error?_eq_none_iff.1 hv
      rcases unfaulted_read hb with ⟨d, rest, hr⟩ | hr | ⟨start, hr⟩
      · rw [hr] at h; cases h
      · rw [hr] at h; cases h
      · rw [hr] at h
        exact Or.inr ⟨hb, start, (Except.error.inj h).symm⟩

/-- Of the reads of a text only the first can meet the verdict of the bracket check. -/
theorem error_of_readAll {t : List Char} {e : ParseError} (h : readAll t = .error e) :
    (balance t).error? = some e ∨ balance t = .balanced ∧ ∃ start, e = .unreadable start := by
  rcases readAll_error_cases h with hread | ⟨d, rest, hread, hrest⟩
  · exact error_of_read hread
  · have hlt := length_of_read hread
    rcases error_of_readAll hrest with hv | ⟨-, hstart⟩
    · rw [balance_rest hread] at hv
      cases hv
    · exact Or.inr ⟨(read_eq_some hread).1, hstart⟩
termination_by t.length

theorem read_of_readAll_fault {t : List Char} {e : ParseError} (h : readAll t = .error e)
    (he : e = .incomplete ∨ e.IsBracketFault) : read t = .error e := by
  rcases error_of_readAll h with hv | ⟨-, start, rfl⟩
  · exact read_of_unbalanced hv
  · rcases he with he | he <;> cases he

theorem read_eq_incomplete_iff {t : List Char} :
    read t = .error .incomplete ↔ balance t = .incomplete := by
  constructor
  · intro h
    rcases error_of_read h with hv | ⟨-, start, he⟩
    · exact Balance.error?_eq_incomplete_iff.1 hv
    · cases he
  · intro h
    exact read_of_unbalanced (Balance.error?_eq_incomplete_iff.2 h)

theorem exists_bracketFault_iff {t : List Char} :
    (∃ e : ParseError, e.IsBracketFault ∧ read t = .error e) ↔ (balance t).IsFault := by
  constructor
  · rintro ⟨e, he, h⟩
    rcases error_of_read h with hv | ⟨-, start, rfl⟩
    · exact (Balance.isBracketFault_iff hv).1 he
    · cases he
  · intro hf
    cases hv : (balance t).error? with
    | none =>
        rw [Balance.error?_eq_none_iff.1 hv] at hf
        cases hf
    | some e => exact ⟨e, (Balance.isBracketFault_iff hv).2 hf, read_of_unbalanced hv⟩

/-! ## What the scan can reach -/

namespace ScanState

/-- The state in which the scan of a text starts. -/
def start : ScanState := ⟨.code, []⟩

/-- Only closing brackets are owed. -/
def OwesClosers (st : ScanState) : Prop :=
  ∀ c ∈ st.owed, OwedCloser c

theorem owesClosers_start : start.OwesClosers := by
  intro c hc
  cases hc

/-- One step of the scan: it fails at a closing bracket, or what is owed are closers again. -/
theorem step_cases (st : ScanState) (c : Char) :
    (∃ v : Balance, st.step c = .error v ∧ v.IsFault) ∨
      ∃ st', st.step c = .ok st' ∧ (st.OwesClosers → st'.OwesClosers) := by
  obtain ⟨region, owed⟩ := st
  cases region with
  | comment => exact Or.inr ⟨_, rfl, fun h => h⟩
  | literal escaped => exact Or.inr ⟨_, rfl, fun h => h⟩
  | code =>
      simp only [step, owedAfter]
      cases hc : closerOf c with
      | some closer =>
          refine Or.inr ⟨_, rfl, fun h d hd => ?_⟩
          rcases List.mem_cons.1 hd with rfl | hd
          · exact ⟨c, hc⟩
          · exact h d hd
      | none =>
          cases hk : isCloser c with
          | false => exact Or.inr ⟨_, rfl, fun h => h⟩
          | true =>
              cases owed with
              | nil => exact Or.inl ⟨_, rfl, .stray⟩
              | cons expected owed =>
                  by_cases he : expected = c
                  · simp only [he, if_true]
                    exact Or.inr ⟨_, rfl, fun h d hd => h d (List.mem_cons_of_mem _ hd)⟩
                  · simp only [he, if_true, if_false]
                    exact Or.inl ⟨_, rfl, .mismatched _ _⟩

/-- The whole scan: it fails at a closing bracket, or closers are owed at its end. -/
theorem run_cases (st : ScanState) (p : List Char) (h : st.OwesClosers) :
    (∃ v : Balance, st.run p = .error v ∧ v.IsFault) ∨
      ∃ st', st.run p = .ok st' ∧ st'.OwesClosers := by
  induction p generalizing st with
  | nil => exact Or.inr ⟨st, rfl, h⟩
  | cons c p ih =>
      rcases st.step_cases c with ⟨v, hs, hv⟩ | ⟨mid, hs, hmid⟩
      · exact Or.inl ⟨v, by simp [run, hs, Except.bind], hv⟩
      · simpa [run, hs, Except.bind] using ih mid (hmid h)

/-- A fault is met whatever follows it. -/
theorem run_append_of_error {st : ScanState} {p : List Char} {v : Balance} (h : st.run p = .error v)
    (cs : List Char) : st.run (p ++ cs) = .error v := by
  rw [run_append, h]
  rfl

end ScanState

theorem balance_of_error {t : List Char} {v : Balance} (h : ScanState.start.run t = .error v)
    (s : List Char) : balance (t ++ s) = v := by
  have hs := ScanState.run_append_of_error h s
  show scanBalance ScanState.start.region ScanState.start.owed (t ++ s) = v
  rw [scanBalance_eq, hs]

theorem balance_of_ok {t : List Char} {st : ScanState} (h : ScanState.start.run t = .ok st)
    (s : List Char) : balance (t ++ s) = scanBalance st.region st.owed s :=
  scanBalance_append h s

theorem verdict_not_fault (st : ScanState) : st.verdict = .balanced ∨ st.verdict = .incomplete := by
  obtain ⟨region, owed⟩ := st
  cases region <;> cases owed <;> simp [ScanState.verdict]

/-! ## Closing what is open -/

/-- A text that leads from a region back to code. -/
def Region.leave : Region → List Char
  | .code => []
  | .comment => ['\n']
  | .literal false => ['"']
  | .literal true => ['"', '"']

/-- A text that leads back to code and closes every bracket. -/
def ScanState.closing (st : ScanState) : List Char :=
  st.region.leave ++ st.owed

theorem run_leave (r : Region) (owed : List Char) :
    ScanState.run ⟨r, owed⟩ r.leave = .ok ⟨.code, owed⟩ := by
  cases r with
  | code => rfl
  | comment => rfl
  | literal escaped => cases escaped <;> rfl

theorem run_owed (owed : List Char) (h : ∀ c ∈ owed, OwedCloser c) :
    ScanState.run ⟨.code, owed⟩ owed = .ok ⟨.code, []⟩ := by
  induction owed with
  | nil => rfl
  | cons closer owed ih =>
      obtain ⟨c, hc⟩ := h closer List.mem_cons_self
      have hrest := ih fun d hd => h d (List.mem_cons_of_mem closer hd)
      simpa [ScanState.run, step_closer hc, Except.bind] using hrest

theorem run_closing {st : ScanState} (h : st.OwesClosers) : st.run st.closing = .ok .start := by
  unfold ScanState.closing
  rw [ScanState.run_append_of_ok (run_leave st.region st.owed)]
  exact run_owed st.owed h

/-- After a scan without a fault the text can be completed. -/
theorem balance_closing {t : List Char} {st : ScanState} (h : ScanState.start.run t = .ok st)
    (hst : st.OwesClosers) : balance (t ++ st.closing) = .balanced := by
  rw [balance_of_ok h, scanBalance_eq, run_closing hst]
  rfl

/-- A text has met a fault for good, or it can be completed. -/
theorem balance_cases (t : List Char) :
    (∃ v : Balance, v.IsFault ∧ ∀ s, balance (t ++ s) = v) ∨
      (balance t = .balanced ∨ balance t = .incomplete) ∧ ∃ s, balance (t ++ s) = .balanced := by
  rcases ScanState.start.run_cases t ScanState.owesClosers_start with
    ⟨v, hrun, hv⟩ | ⟨st, hrun, hst⟩
  · exact Or.inl ⟨v, hv, balance_of_error hrun⟩
  · refine Or.inr ⟨?_, st.closing, balance_closing hrun hst⟩
    have hend := balance_of_ok hrun []
    rw [List.append_nil, scanBalance_nil] at hend
    rw [hend]
    exact verdict_not_fault st

theorem balance_append_of_isFault {t : List Char} (h : (balance t).IsFault) (s : List Char) :
    balance (t ++ s) = balance t := by
  rcases balance_cases t with ⟨v, -, hall⟩ | ⟨hb, -⟩
  · have hnil := hall []
    rw [List.append_nil] at hnil
    rw [hall s, hnil]
  · rcases hb with hb | hb <;> rw [hb] at h <;> cases h

theorem balance_eq_incomplete_iff {t : List Char} :
    balance t = .incomplete ↔ balance t ≠ .balanced ∧ ∃ s, balance (t ++ s) = .balanced := by
  rcases balance_cases t with ⟨v, hv, hall⟩ | ⟨hb, hs⟩
  · have hnil := hall []
    rw [List.append_nil] at hnil
    constructor
    · intro h
      rw [← hnil, h] at hv
      cases hv
    · rintro ⟨-, s, hs⟩
      rw [← hall s, hs] at hv
      cases hv
  · constructor
    · intro h
      exact ⟨by rw [h]; simp, hs⟩
    · rintro ⟨hne, -⟩
      exact hb.resolve_left hne

theorem isFault_balance_iff {t : List Char} :
    (balance t).IsFault ↔ ∀ s, balance (t ++ s) ≠ .balanced := by
  constructor
  · intro h s hs
    rw [← balance_append_of_isFault h s, hs] at h
    cases h
  · intro h
    rcases balance_cases t with ⟨v, hv, hall⟩ | ⟨-, s, hs⟩
    · rw [← hall [], List.append_nil] at hv
      exact hv
    · exact absurd hs (h s)

/-- A read asks for more text exactly if some text completes what is there. It reports a bracket
exactly if no text does, and then it reports the same whatever follows. -/
theorem incomplete_iff_completable (t : List Char) :
    (read t = .error .incomplete ↔
      balance t ≠ .balanced ∧ ∃ s, balance (t ++ s) = .balanced) ∧
    ((∃ e : ParseError, e.IsBracketFault ∧ read t = .error e) ↔
      ∀ s, balance (t ++ s) ≠ .balanced) ∧
    ∀ e : ParseError, e.IsBracketFault → read t = .error e → ∀ s, read (t ++ s) = .error e := by
  refine ⟨read_eq_incomplete_iff.trans balance_eq_incomplete_iff,
    exists_bracketFault_iff.trans isFault_balance_iff, fun e he h s => ?_⟩
  rcases error_of_read h with hv | ⟨-, start, rfl⟩
  · apply read_of_unbalanced
    rw [balance_append_of_isFault ((Balance.isBracketFault_iff hv).1 he), hv]
  · cases he

/-- A text that stops after a backslash inside two brackets, and one whose bracket is closed by
another kind. -/
theorem open_escape_completable :
    read "[(f \"a\\".toList = .error .incomplete ∧
      ∀ s, read ("[(f] \"".toList ++ s) = .error (.wrongCloser ')' ']') :=
  ⟨(incomplete_iff_completable _).1.2 ⟨by decide, "\\\")]".toList, by decide⟩,
    (incomplete_iff_completable _).2.2 _ (.wrong ')' ']') (read_of_unbalanced rfl)⟩

end ArrowLisp
