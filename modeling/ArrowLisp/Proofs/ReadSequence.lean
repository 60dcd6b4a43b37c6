import ArrowLisp.Program
import ArrowLisp.Proofs.Taking

/-!
# The reads of a loop

Two loops read a text to its end: `readAll` collects the data, `runSource` evaluates them in turn.
Both make the same reads. A read that gives a datum leaves a balanced text, so a bracket fault can
only be the result of the first read. Whether the evaluations return is not settled here.
-/

namespace ArrowLisp

/-! ## One read -/

theorem read_nil {cs : List Char} (h : skipBlanks cs = []) : read cs = .ok none := by
  unfold read
  rw [h]

/-- A read in terms of the text with its blanks. -/
theorem read_cons {cs tail : List Char} {c : Char} (h : skipBlanks cs = c :: tail) :
    read cs =
      match balance cs with
      | .incomplete => .error .incomplete
      | .stray => .error .strayCloser
      | .mismatched expected found => .error (.wrongCloser expected found)
      | .balanced =>
        match takeDatum cs with
        | some p => .ok (some p)
        | none => .error (.unreadable (String.ofList (Text.excerpt 20 (c :: tail)))) := by
  have hb := balance_skipBlanks cs
  have hd := takeDatum_skipBlanks cs
  rw [h] at hb hd
  cases hbal : balance cs with
  | incomplete => simp only [read, h, hb.trans hbal]
  | stray => simp only [read, h, hb.trans hbal]
  | mismatched expected found => simp only [read, h, hb.trans hbal]
  | balanced =>
      cases htake : takeDatum cs with
      | none => simp only [read, h, hb.trans hbal, hd.trans htake]
      | some p => simp only [read, h, hb.trans hbal, hd.trans htake]

/-- A read gives a datum only from a balanced text, and gives the one at its front. -/
theorem read_eq_some {cs rest : List Char} {d : Datum} (h : read cs = .ok (some (d, rest))) :
    balance cs = .balanced ∧ takeDatum cs = some (d, rest) := by
  cases hskip : skipBlanks cs with
  | nil =>
      rw [read_nil hskip] at h
      cases h
  | cons c tail =>
      rw [read_cons hskip] at h
      cases hb : balance cs with
      | balanced =>
          rw [hb] at h
          cases hd : takeDatum cs with
          | none => simp [hd] at h
          | some p => simpa [hd] using h
      | incomplete => simp [hb] at h
      | stray => simp [hb] at h
      | mismatched expected found => simp [hb] at h

/-- The end is found only where nothing but blanks and comments is left. -/
theorem skipBlanks_of_read_none {cs : List Char} (h : read cs = .ok none) : skipBlanks cs = [] := by
  cases hskip : skipBlanks cs with
  | nil => rfl
  | cons c tail =>
      rw [read_cons hskip] at h
      cases hb : balance cs with
      | balanced =>
          rw [hb] at h
          cases hd : takeDatum cs with
          | none => simp [hd] at h
          | some p => simp [hd] at h
      | incomplete => simp [hb] at h
      | stray => simp [hb] at h
      | mismatched expected found => simp [hb] at h

theorem read_of_takeDatum {cs : List Char} {p : Datum × List Char} (hb : balance cs = .balanced)
    (hd : takeDatum cs = some p) : read cs = .ok (some p) := by
  cases hskip : skipBlanks cs with
  | nil =>
      rw [takeDatum_nil hskip] at hd
      cases hd
  | cons c tail =>
      rw [read_cons hskip, hb]
      simp only [hd]

/-- What is left after a datum is balanced. -/
theorem balance_rest {cs rest : List Char} {d : Datum} (h : read cs = .ok (some (d, rest))) :
    balance rest = .balanced := by
  obtain ⟨hb, hd⟩ := read_eq_some h
  obtain ⟨p, rfl, hp⟩ := taking_neutral.1 cs d rest hd
  rw [← hp.balance rest]
  exact hb

theorem suffix_rest {cs rest : List Char} {d : Datum} (h : read cs = .ok (some (d, rest))) :
    rest <:+ cs := by
  obtain ⟨p, rfl, -⟩ := taking_neutral.1 cs d rest (read_eq_some h).2
  exact List.suffix_append p rest

theorem readAll_of_error {cs : List Char} {e : ParseError} (h : read cs = .error e) :
    readAll cs = .error e := by
  rw [readAll]
  split
  · next he => rw [h] at he; cases he; rfl
  · next he => rw [h] at he; cases he
  · next he => rw [h] at he; cases he

theorem readAll_of_none {cs : List Char} (h : read cs = .ok none) : readAll cs = .ok [] := by
  rw [readAll]
  split
  · next he => rw [h] at he; cases he
  · rfl
  · next he => rw [h] at he; cases he

theorem readAll_of_some {cs rest : List Char} {d : Datum} (h : read cs = .ok (some (d, rest))) :
    readAll cs = (readAll rest).map (d :: ·) := by
  rw [readAll]
  split
  · next he => rw [h] at he; cases he
  · next he => rw [h] at he; cases he
  · next he =>
    rw [h] at he
    cases he
    cases readAll rest <;> rfl

/-- What it takes to read a text to its end. -/
theorem readAll_ok_cases {cs : List Char} {ds : List Datum} (h : readAll cs = .ok ds) :
    (read cs = .ok none ∧ ds = []) ∨
      ∃ d rest ds', read cs = .ok (some (d, rest)) ∧ readAll rest = .ok ds' ∧ ds = d :: ds' := by
  cases hread : read cs with
  | error e =>
      rw [readAll_of_error hread] at h
      cases h
  | ok r =>
      cases r with
      | none =>
          rw [readAll_of_none hread] at h
          exact Or.inl ⟨rfl, (Except.ok.inj h).symm⟩
      | some p =>
          rw [readAll_of_some hread] at h
          cases hrest : readAll p.2 with
          | error e => rw [hrest] at h; cases h
          | ok ds' =>
              rw [hrest] at h
              exact Or.inr ⟨p.1, p.2, ds', rfl, hrest, (Except.ok.inj h).symm⟩

/-- What keeps a text from being read to its end. -/
theorem readAll_error_cases {cs : List Char} {e : ParseError} (h : readAll cs = .error e) :
    read cs = .error e ∨
      ∃ d rest, read cs = .ok (some (d, rest)) ∧ readAll rest = .error e := by
  cases hread : read cs with
  | error e' =>
      rw [readAll_of_error hread] at h
      exact Or.inl (by rw [Except.error.inj h])
  | ok r =>
      cases r with
      | none =>
          rw [readAll_of_none hread] at h
          cases h
      | some p =>
          rw [readAll_of_some hread] at h
          cases hrest : readAll p.2 with
          | error e' =>
              rw [hrest] at h
              exact Or.inr ⟨p.1, p.2, rfl, by rw [hrest, Except.error.inj h]⟩
          | ok ds => rw [hrest] at h; cases h

/-! ## The reads of a text -/

/-- What a read can give. -/
abbrev ReadResult := Except ParseError (Option (Datum × List Char))

/-- A result without a bracket fault: a datum, the end, or a place that no datum starts at. -/
def Unfaulted (r : ReadResult) : Prop :=
  (∃ d rest, r = .ok (some (d, rest))) ∨ r = .ok none ∨ ∃ start, r = .error (.unreadable start)

theorem unfaulted_read {cs : List Char} (h : balance cs = .balanced) : Unfaulted (read cs) := by
  cases hskip : skipBlanks cs with
  | nil => exact Or.inr (Or.inl (read_nil hskip))
  | cons c tail =>
      rw [read_cons hskip, h]
      cases takeDatum cs with
      | none => exact Or.inr (Or.inr ⟨_, rfl⟩)
      | some p => exact Or.inl ⟨p.1, p.2, rfl⟩

/-- The results of reading a text again and again, each time from where the last datum ended, up to
the first result that is not a datum. -/
inductive Reads : List Char → List ReadResult → Prop
  | stop {cs : List Char} (h : ∀ d rest, read cs ≠ .ok (some (d, rest))) : Reads cs [read cs]
  | next {cs rest : List Char} {d : Datum} {rs : List ReadResult}
      (h : read cs = .ok (some (d, rest))) (tail : Reads rest rs) :
      Reads cs (.ok (some (d, rest)) :: rs)

namespace Reads

variable {cs : List Char} {rs : List ReadResult}

/-- A text has only one row of reads. -/
theorem unique {rs' : List ReadResult} (h : Reads cs rs) (h' : Reads cs rs') : rs' = rs := by
  induction h generalizing rs' with
  | stop h =>
      cases h' with
      | stop _ => rfl
      | next hread _ => exact absurd hread (h _ _)
  | next hread _ ih =>
      cases h' with
      | stop h => exact absurd hread (h _ _)
      | next hread' tail' =>
          rw [hread] at hread'
          cases hread'
          rw [ih tail']

/-- Each read but the last uses up a character. -/
theorem length_le (h : Reads cs rs) : rs.length ≤ cs.length + 1 := by
  induction h with
  | stop _ => simp
  | next hread _ ih =>
      have hlt := length_of_read hread
      rw [List.length_cons]
      omega

/-- From a balanced text on no read meets a bracket fault. -/
theorem unfaulted (h : Reads cs rs) (hb : balance cs = .balanced) : ∀ r ∈ rs, Unfaulted r := by
  induction h with
  | stop _ =>
      intro r hr
      rw [List.mem_singleton.1 hr]
      exact unfaulted_read hb
  | next hread _ ih =>
      intro r hr
      rcases List.mem_cons.1 hr with rfl | hr
      · exact Or.inl ⟨_, _, rfl⟩
      · exact ih (balance_rest hread) r hr

theorem unfaulted_tail (h : Reads cs rs) : ∀ r ∈ rs.tail, Unfaulted r := by
  cases h with
  | stop _ => simp
  | next hread tail => exact tail.unfaulted (balance_rest hread)

end Reads

/-- Every text has a finite row of reads. -/
theorem reads_exists (cs : List Char) : ∃ rs, Reads cs rs := by
  by_cases h : ∃ d rest, read cs = .ok (some (d, rest))
  · obtain ⟨d, rest, hread⟩ := h
    have hlt := length_of_read hread
    obtain ⟨rs, hrs⟩ := reads_exists rest
    exact ⟨_, .next hread hrs⟩
  · exact ⟨_, .stop fun d rest hread => h ⟨d, rest, hread⟩⟩
termination_by cs.length

/-! ## The two loops -/

/-- The data of a row of reads, unless it ends in an error. -/
def collect : List ReadResult → Except ParseError (List Datum)
  | [] => .ok []
  | .error e :: _ => .error e
  | .ok none :: _ => .ok []
  | .ok (some (d, _)) :: rs => (collect rs).map (d :: ·)

/-- The data of a row of reads. -/
def dataOf (rs : List ReadResult) : List Datum :=
  rs.filterMap fun
    | .ok (some (d, _)) => some d
    | _ => none

theorem readAll_eq_collect {cs : List Char} {rs : List ReadResult} (h : Reads cs rs) :
    readAll cs = collect rs := by
  induction h with
  | @stop cs h =>
      cases hread : read cs with
      | error e => exact readAll_of_error hread
      | ok r =>
          cases r with
          | none => exact readAll_of_none hread
          | some p => exact absurd hread (h p.1 p.2)
  | next hread _ ih => rw [readAll_of_some hread, ih, collect]

section Loop

variable {σ : Type} [Console σ] (echo : Bool) (depth : Nat) (scope : Scope)

/-- Evaluates the data of a row of reads in turn, as far as it goes. -/
def replay : List ReadResult → σ → Option (Except ParseError Nat × σ)
  | [], s => some (.ok 0, s)
  | .error e :: _, s => some (.error e, s)
  | .ok none :: _, s => some (.ok 0, s)
  | .ok (some (d, _)) :: rs, s =>
    (runDatum depth scope d s).bind fun (outcome, s') =>
      (replay rs (showOutcome echo outcome s')).map fun (result, s'') =>
        (result.map fun n => if outcome.failed then n + 1 else n, s'')

theorem runSource_eq_replay {cs : List Char} {rs : List ReadResult} (h : Reads cs rs) (s : σ) :
    runSource echo depth scope cs s = replay echo depth scope rs s := by
  induction h generalizing s with
  | @stop cs h =>
      rw [runSource]
      split
      · next e he => rw [he]; rfl
      · next he => rw [he]; rfl
      · next d rest he => exact absurd he (h d rest)
  | @next cs rest d rs hread _ ih =>
      rw [runSource]
      split
      · next e he => rw [hread] at he; cases he
      · next he => rw [hread] at he; cases he
      · next d' rest' he =>
        rw [hread] at he
        cases he
        rw [replay]
        cases runDatum depth scope d s with
        | none => rfl
        | some p =>
            obtain ⟨outcome, s'⟩ := p
            simp only [Option.bind_some, ih]
            rcases replay echo depth scope rs (showOutcome echo outcome s') with
              _ | ⟨e | n, s''⟩ <;> rfl

/-- The loop gives a result if all evaluations do. -/
theorem isSome_replay (rs : List ReadResult)
    (h : ∀ d ∈ dataOf rs, ∀ s : σ, (runDatum depth scope d s).isSome = true) (s : σ) :
    (replay echo depth scope rs s).isSome = true := by
  induction rs generalizing s with
  | nil => rfl
  | cons r rs ih =>
      rcases r with e | _ | ⟨d, rest⟩
      · rfl
      · rfl
      · have hd := h d (by simp [dataOf]) s
        have hrest := ih fun d' hd' => h d' (by simpa [dataOf] using Or.inr hd')
        rw [replay]
        cases hrun : runDatum depth scope d s with
        | none => simp [hrun] at hd
        | some p =>
            obtain ⟨outcome, s'⟩ := p
            simpa using hrest (showOutcome echo outcome s')

end Loop

/-- The bracket check and the reader agree on where a datum ends. Of the reads of a loop only the
first can meet a bracket fault. The row of reads is finite, and both loops follow it. -/
theorem bracket_fault_only_first :
    (∀ (t : List Char) (d : Datum) (rest : List Char), read t = .ok (some (d, rest)) →
      rest <:+ t ∧ rest.length < t.length ∧ balance rest = .balanced) ∧
    ∀ t : List Char, ∃ rs : List ReadResult,
      Reads t rs ∧ (∀ rs', Reads t rs' → rs' = rs) ∧ rs.length ≤ t.length + 1 ∧
      (∀ r ∈ rs.tail, Unfaulted r) ∧
      readAll t = collect rs ∧
      ∀ (σ : Type) [Console σ] (echo : Bool) (depth : Nat) (scope : Scope) (s : σ),
        runSource echo depth scope t s = replay echo depth scope rs s ∧
        ((∀ d ∈ dataOf rs, ∀ s' : σ, (runDatum depth scope d s').isSome = true) →
          (runSource echo depth scope t s).isSome = true) := by
  constructor
  · intro t d rest h
    exact ⟨suffix_rest h, length_of_read h, balance_rest h⟩
  · intro t
    obtain ⟨rs, hrs⟩ := reads_exists t
    refine ⟨rs, hrs, fun rs' h' => hrs.unique h', hrs.length_le, hrs.unfaulted_tail,
      readAll_eq_collect hrs, ?_⟩
    intro σ _ echo depth scope s
    refine ⟨runSource_eq_replay echo depth scope hrs s, fun h => ?_⟩
    rw [runSource_eq_replay echo depth scope hrs s]
    exact isSome_replay echo depth scope rs h s

/-- A call before a number that lacks a delimiter: the second read fails, and not at a bracket. -/
theorem call_before_bad_number :
    read "(f)1x".toList = .ok (some (.list [.symbol "f"], "1x".toList)) ∧
      balance "1x".toList = .balanced := by
  have hitems : takeItems ')' ['f', ')', '1', 'x'] =
      some ([.symbol "f"], ['1', 'x']) := by
    rw [takeItems_cons (skipBlanks_stop (by decide) rfl _), if_neg (by decide),
      takeDatum_cons (skipBlanks_stop (by decide) rfl _)]
    have hatom : takeAtom ['f', ')', '1', 'x'] = some (.symbol "f", [')', '1', 'x']) := rfl
    simp only [show closerOf 'f' = none from rfl, hatom, Option.bind_some]
    rw [takeItems_cons (skipBlanks_stop (by decide) rfl _), if_pos rfl]
    rfl
  have hread : read "(f)1x".toList = .ok (some (.list [.symbol "f"], "1x".toList)) := by
    apply read_of_takeDatum (by decide)
    change takeDatum ['(', 'f', ')', '1', 'x'] = _
    rw [takeDatum_cons (skipBlanks_stop (by decide) rfl _)]
    simp only [closerOf, hitems, Option.map_some]
    rfl
  exact ⟨hread, (bracket_fault_only_first.1 _ _ _ hread).2.2⟩

end ArrowLisp
