import ArrowLisp.Datum.Balance

/-!
# The bracket scan as a machine

The scan is taken apart into single steps. A state is the region and the closing brackets owed; a
character leads to another state or to a verdict. A run over a text is then cut at any place, and
texts that bring the scan back to where it was can be left out. Nothing here looks at the reader.
-/

namespace ArrowLisp

/-- Where the scan stands, and what it is owed. -/
structure ScanState where
  region : Region
  owed : List Char
deriving DecidableEq, Repr

/-- The region after a character. -/
def Region.next : Region → Char → Region
  | .code, c => if c = '"' then .literal false else if c = ';' then .comment else .code
  | .comment, c => if c = '\n' then .code else .comment
  | .literal true, _ => .literal false
  | .literal false, c =>
    if c = '\\' then .literal true else if c = '"' then .code else .literal false

/-- The region after a text that starts in code. -/
def regionAfter (cs : List Char) : Region :=
  cs.foldl Region.next .code

/-- The brackets owed after a character of code, or the verdict it forces. -/
def owedAfter (owed : List Char) (c : Char) : Except Balance (List Char) :=
  match closerOf c with
  | some closer => .ok (closer :: owed)
  | none =>
    if isCloser c then
      match owed with
      | [] => .error .stray
      | expected :: owed' => if expected = c then .ok owed' else .error (.mismatched expected c)
    else .ok owed

namespace ScanState

/-- One step of the scan. -/
def step (st : ScanState) (c : Char) : Except Balance ScanState :=
  match st.region with
  | .code => (owedAfter st.owed c).map fun owed => ⟨Region.code.next c, owed⟩
  | r => .ok ⟨r.next c, st.owed⟩

/-- The scan over a text. -/
def run (st : ScanState) : List Char → Except Balance ScanState
  | [] => .ok st
  | c :: cs => (st.step c).bind fun st' => st'.run cs

/-- The verdict when the text ends in a state. -/
def verdict (st : ScanState) : Balance :=
  match st.region, st.owed with
  | .code, [] => .balanced
  | .comment, [] => .balanced
  | _, _ => .incomplete

@[simp] theorem run_nil (st : ScanState) : st.run [] = .ok st := rfl

theorem run_append (st : ScanState) (p cs : List Char) :
    st.run (p ++ cs) = (st.run p).bind fun st' => st'.run cs := by
  induction p generalizing st with
  | nil => rfl
  | cons c p ih =>
      cases h : st.step c with
      | error v => simp [run, h, Except.bind]
      | ok st' => simpa [run, h, Except.bind] using ih st'

/-- A run over the front of a text can be cut off. -/
theorem run_append_of_ok {st st' : ScanState} {p : List Char} (h : st.run p = .ok st')
    (cs : List Char) : st.run (p ++ cs) = st'.run cs := by
  rw [run_append, h]
  rfl

theorem region_step {st st' : ScanState} {c : Char} (h : st.step c = .ok st') :
    st'.region = st.region.next c := by
  obtain ⟨region, owed⟩ := st
  cases region with
  | code =>
      simp only [step] at h
      cases ho : owedAfter owed c with
      | error v => simp [ho, Except.map] at h
      | ok owed' =>
          simp only [ho, Except.map, Except.ok.injEq] at h
          rw [← h]
  | comment =>
      simp only [step, Except.ok.injEq] at h
      rw [← h]
  | literal escaped =>
      simp only [step, Except.ok.injEq] at h
      rw [← h]

/-- The brackets have no influence on the regions. -/
theorem region_run {st st' : ScanState} {p : List Char} (h : st.run p = .ok st') :
    st'.region = p.foldl Region.next st.region := by
  induction p generalizing st with
  | nil =>
      simp only [run_nil, Except.ok.injEq] at h
      rw [← h]
      rfl
  | cons c p ih =>
      cases hs : st.step c with
      | error v => simp [run, hs, Except.bind] at h
      | ok mid =>
          have hrun : mid.run p = .ok st' := by simpa [run, hs, Except.bind] using h
          rw [ih hrun, region_step hs]
          rfl

end ScanState

theorem scanBalance_code_cons (owed : List Char) (c : Char) (cs : List Char) :
    scanBalance .code owed (c :: cs) =
      if c = '"' then scanBalance (.literal false) owed cs
      else if c = ';' then scanBalance .comment owed cs
      else
        match closerOf c with
        | some closer => scanBalance .code (closer :: owed) cs
        | none =>
          if isCloser c then
            match owed with
            | [] => .stray
            | expected :: owed' =>
              if expected = c then scanBalance .code owed' cs else .mismatched expected c
          else scanBalance .code owed cs := by
  cases owed <;> rfl

/-- The recursion of the scan, one character at a time. -/
theorem scanBalance_cons (r : Region) (owed : List Char) (c : Char) (cs : List Char) :
    scanBalance r owed (c :: cs) =
      match ScanState.step ⟨r, owed⟩ c with
      | .ok st => scanBalance st.region st.owed cs
      | .error v => v := by
  cases r with
  | comment => simp [scanBalance, ScanState.step, Region.next]
  | literal escaped =>
      cases escaped <;> simp [scanBalance, ScanState.step, Region.next]
  | code =>
      rw [scanBalance_code_cons]
      simp only [ScanState.step, Region.next, owedAfter]
      by_cases hq : c = '"'
      · subst hq
        simp [closerOf, isCloser, Except.map]
      by_cases hs : c = ';'
      · subst hs
        simp [closerOf, isCloser, Except.map]
      simp only [hq, hs, if_false]
      cases hc : closerOf c with
      | some closer => simp [Except.map]
      | none =>
          by_cases hk : isCloser c = true
          · cases owed with
            | nil => simp [hk, Except.map]
            | cons expected owed' =>
                by_cases he : expected = c <;> simp [hk, he, Except.map]
          · simp [hk, Except.map]

theorem scanBalance_nil (r : Region) (owed : List Char) :
    scanBalance r owed [] = ScanState.verdict ⟨r, owed⟩ := by
  cases r <;> cases owed <;> rfl

/-- The verdict on a text is that of its run. -/
theorem scanBalance_eq (st : ScanState) (cs : List Char) :
    scanBalance st.region st.owed cs =
      match st.run cs with
      | .ok st' => st'.verdict
      | .error v => v := by
  induction cs generalizing st with
  | nil => exact scanBalance_nil st.region st.owed
  | cons c cs ih =>
      rw [scanBalance_cons]
      cases h : st.step c with
      | error v => simp [ScanState.run, h, Except.bind]
      | ok st' => simpa [ScanState.run, h, Except.bind] using ih st'

/-- What stands before a reached state does not matter any more. -/
theorem scanBalance_append {st st' : ScanState} {p : List Char} (h : st.run p = .ok st')
    (cs : List Char) :
    scanBalance st.region st.owed (p ++ cs) = scanBalance st'.region st'.owed cs := by
  rw [scanBalance_eq, scanBalance_eq, ScanState.run_append_of_ok h]

/-! ## Texts that leave the scan where it was -/

/-- Whatever is owed, the text starts and ends in code and owes the same again. -/
def Neutral (p : List Char) : Prop :=
  ∀ owed, ScanState.run ⟨.code, owed⟩ p = .ok ⟨.code, owed⟩

/-- A character of code that is neither a quote, a semicolon nor a bracket. -/
def isPlain (c : Char) : Bool :=
  c ≠ '"' && c ≠ ';' && (closerOf c).isNone && !isCloser c

theorem step_plain {c : Char} (h : isPlain c = true) (owed : List Char) :
    ScanState.step ⟨.code, owed⟩ c = .ok ⟨.code, owed⟩ := by
  simp only [isPlain, Bool.and_eq_true, decide_eq_true_eq, Option.isNone_iff_eq_none,
    Bool.not_eq_true'] at h
  obtain ⟨⟨⟨hq, hs⟩, hc⟩, hk⟩ := h
  simp [ScanState.step, owedAfter, Region.next, hq, hs, hc, hk, Except.map]

theorem step_opener {c closer : Char} (h : closerOf c = some closer) (owed : List Char) :
    ScanState.step ⟨.code, owed⟩ c = .ok ⟨.code, closer :: owed⟩ := by
  have hq : c ≠ '"' := by rintro rfl; simp [closerOf] at h
  have hs : c ≠ ';' := by rintro rfl; simp [closerOf] at h
  simp [ScanState.step, owedAfter, Region.next, hq, hs, h, Except.map]

/-- The closing brackets are those that belong to opening ones. -/
theorem closer_cases {c closer : Char} (h : closerOf c = some closer) :
    closer = ')' ∨ closer = ']' ∨ closer = '}' := by
  unfold closerOf at h
  split at h
  · exact Or.inl (Option.some.inj h).symm
  · exact Or.inr (Or.inl (Option.some.inj h).symm)
  · exact Or.inr (Or.inr (Option.some.inj h).symm)
  · cases h

theorem isCloser_of_closerOf {c closer : Char} (h : closerOf c = some closer) :
    isCloser closer = true := by
  rcases closer_cases h with rfl | rfl | rfl <;> rfl

theorem step_closer {c closer : Char} (h : closerOf c = some closer) (owed : List Char) :
    ScanState.step ⟨.code, closer :: owed⟩ closer = .ok ⟨.code, owed⟩ := by
  rcases closer_cases h with rfl | rfl | rfl <;>
    simp [ScanState.step, owedAfter, Region.next, closerOf, isCloser, Except.map]

theorem neutral_nil : Neutral [] := fun _ => rfl

theorem Neutral.append {p q : List Char} (hp : Neutral p) (hq : Neutral q) : Neutral (p ++ q) := by
  intro owed
  rw [ScanState.run_append_of_ok (hp owed)]
  exact hq owed

theorem neutral_plain {p : List Char} (h : ∀ c ∈ p, isPlain c = true) : Neutral p := by
  induction p with
  | nil => exact neutral_nil
  | cons c p ih =>
      intro owed
      have hc := step_plain (h c List.mem_cons_self) owed
      have hp := ih (fun d hd => h d (List.mem_cons_of_mem c hd)) owed
      simpa [ScanState.run, hc, Except.bind] using hp

theorem Neutral.cons_plain {c : Char} {p : List Char} (hc : isPlain c = true) (hp : Neutral p) :
    Neutral (c :: p) := by
  have hone : Neutral [c] := neutral_plain (by simpa using hc)
  simpa using hone.append hp

/-- A bracketed text is neutral if its inside is. -/
theorem Neutral.bracket {c closer : Char} {p : List Char} (hc : closerOf c = some closer)
    (hp : Neutral p) : Neutral (c :: p ++ [closer]) := by
  intro owed
  have hopen : ScanState.run ⟨.code, owed⟩ [c] = .ok ⟨.code, closer :: owed⟩ := by
    simp [ScanState.run, step_opener hc, Except.bind]
  have hclose : ScanState.run ⟨.code, closer :: owed⟩ [closer] = .ok ⟨.code, owed⟩ := by
    simp [ScanState.run, step_closer hc, Except.bind]
  change ScanState.run ⟨.code, owed⟩ ([c] ++ (p ++ [closer])) = _
  rw [ScanState.run_append_of_ok hopen, ScanState.run_append_of_ok (hp _), hclose]

/-- A neutral text cannot close what was opened before it. -/
theorem Neutral.head {c : Char} {p : List Char} (h : Neutral (c :: p)) : isCloser c = false := by
  cases hk : isCloser c with
  | false => rfl
  | true =>
      have ho : closerOf c = none := by
        simp only [isCloser, Bool.or_eq_true, decide_eq_true_eq] at hk
        rcases hk with (rfl | rfl) | rfl <;> rfl
      have hrun := h []
      simp [ScanState.run, ScanState.step, owedAfter, ho, hk, Except.map, Except.bind] at hrun

theorem Neutral.regionAfter {p : List Char} (h : Neutral p) : regionAfter p = .code :=
  (ScanState.region_run (h [])).symm

theorem Neutral.scanBalance {p : List Char} (h : Neutral p) (owed cs : List Char) :
    scanBalance .code owed (p ++ cs) = scanBalance .code owed cs :=
  scanBalance_append (h owed) cs

theorem Neutral.balance {p : List Char} (h : Neutral p) (cs : List Char) :
    balance (p ++ cs) = balance cs :=
  h.scanBalance [] cs

end ArrowLisp
