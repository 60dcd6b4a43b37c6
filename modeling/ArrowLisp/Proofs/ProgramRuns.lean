import ArrowLisp.Proofs.Completing
import ArrowLisp.Proofs.ConsoleUse

/-!
# Two ways to run a text

`runEntry` reads a text to its end before it evaluates anything, `runSource` evaluates each datum as
soon as it is read. Both are compared with `runData` on the data that are read: the one gives its
outcomes, the other counts the failures among them. They part only where the text stops being
readable, since `runSource` has evaluated the data before that place.

A host may be told about failures and shown values while a text runs. What programs see of its state
is given by a view, and the comparison is made there.
-/

namespace ArrowLisp

/-! ## Runs in a row -/

section Rows

variable {σ : Type} [Console σ] (depth : Nat) (scope : Scope)

theorem runData_cons (d : Datum) (ds : List Datum) (s : σ) :
    runData depth scope (d :: ds) s =
      (runDatum depth scope d s).bind fun p =>
        (runData depth scope ds p.2).map fun q => (p.1 :: q.1, q.2) := by
  rw [runData]
  cases runDatum depth scope d s with
  | none => rfl
  | some p =>
      simp only [Option.bind_some]
      cases runData depth scope ds p.2 <;> rfl

theorem runData_append (ds ds' : List Datum) (s : σ) :
    runData depth scope (ds ++ ds') s =
      (runData depth scope ds s).bind fun p =>
        (runData depth scope ds' p.2).map fun q => (p.1 ++ q.1, q.2) := by
  induction ds generalizing s with
  | nil =>
      show _ = (runData depth scope ds' s).map fun q => ([] ++ q.1, q.2)
      simp
  | cons d ds ih =>
      rw [List.cons_append, runData_cons, runData_cons]
      cases runDatum depth scope d s with
      | none => rfl
      | some p =>
          simp only [Option.bind_some, ih]
          cases runData depth scope ds p.2 with
          | none => rfl
          | some q =>
              simp only [Option.bind_some, Option.map_some]
              cases runData depth scope ds' q.2 <;> rfl

theorem length_of_runData {ds : List Datum} {s s' : σ} {outcomes : List Outcome}
    (h : runData depth scope ds s = some (outcomes, s')) : outcomes.length = ds.length := by
  induction ds generalizing s outcomes with
  | nil =>
      cases h
      rfl
  | cons d ds ih =>
      rw [runData_cons] at h
      obtain ⟨p, -, hp⟩ := Option.bind_eq_some_iff.1 h
      obtain ⟨q, hq, he⟩ := Option.map_eq_some_iff.1 hp
      obtain ⟨rfl, rfl⟩ := Prod.mk.inj he
      rw [List.length_cons, List.length_cons, ih hq]

theorem runEntry_of_ok {t : List Char} {ds : List Datum} (h : readAll t = .ok ds) (s : σ) :
    runEntry depth scope t s =
      (runData depth scope ds s).map fun p => (Except.ok p.1, p.2) := by
  simp only [runEntry, h]
  cases runData depth scope ds s <;> rfl

theorem runEntry_of_error {t : List Char} {e : ParseError} (h : readAll t = .error e) (s : σ) :
    runEntry depth scope t s = some (.error e, s) := by
  rw [runEntry, h]

/-- An entry has outcomes exactly if it reads to its end and its data do. -/
theorem runEntry_ok_iff {t : List Char} {s s' : σ} {outcomes : List Outcome} :
    runEntry depth scope t s = some (.ok outcomes, s') ↔
      ∃ ds, readAll t = .ok ds ∧ runData depth scope ds s = some (outcomes, s') := by
  cases h : readAll t with
  | error e =>
      rw [runEntry_of_error depth scope h]
      simp
  | ok ds =>
      rw [runEntry_of_ok depth scope h]
      simp

theorem runSource_of_error (echo : Bool) {t : List Char} {e : ParseError} (h : read t = .error e)
    (s : σ) : runSource echo depth scope t s = some (.error e, s) := by
  have hrs : Reads t [read t] := .stop (by rw [h]; nofun)
  rw [runSource_eq_replay echo depth scope hrs, h]
  rfl

end Rows

/-- The number of outcomes that are failures. -/
def failureCount (outcomes : List Outcome) : Nat :=
  outcomes.countP Outcome.failed

theorem failureCount_cons (outcome : Outcome) (outcomes : List Outcome) :
    failureCount (outcome :: outcomes) =
      if outcome.failed then failureCount outcomes + 1 else failureCount outcomes := by
  unfold failureCount
  rw [List.countP_cons]
  split <;> rfl

/-- A row of reads ends with all data read, or with the error that keeps the text from it. -/
theorem Reads.result {t : List Char} {rs : List ReadResult} (h : Reads t rs) :
    readAll t = .ok (dataOf rs) ∨
      ∃ e, readAll t = .error e ∧ rs.getLast? = some (.error e) := by
  induction h with
  | @stop t h =>
      cases hread : read t with
      | error e => exact Or.inr ⟨e, readAll_of_error hread, rfl⟩
      | ok r =>
          cases r with
          | none => exact Or.inl (readAll_of_none hread)
          | some p => exact absurd hread (h p.1 p.2)
  | @next t rest d rs hread _ ih =>
      rw [readAll_of_some hread]
      rcases ih with hok | ⟨e, he, hlast⟩
      · exact Or.inl (by rw [hok]; rfl)
      · exact Or.inr ⟨e, by rw [he]; rfl, by rw [List.getLast?_cons, hlast]; rfl⟩

theorem Reads.dataOf_eq {t : List Char} {rs : List ReadResult} {ds : List Datum} (h : Reads t rs)
    (hds : readAll t = .ok ds) : dataOf rs = ds := by
  rcases h.result with hok | ⟨e, he, -⟩
  · exact Except.ok.inj (hok.symm.trans hds)
  · rw [he] at hds
    cases hds

theorem Reads.getLast?_eq {t : List Char} {rs : List ReadResult} {e : ParseError} (h : Reads t rs)
    (he : readAll t = .error e) : rs.getLast? = some (.error e) := by
  rcases h.result with hok | ⟨e', he', hlast⟩
  · rw [hok] at he
    cases he
  · rw [hlast, ← Except.error.inj (he'.symm.trans he)]

/-! ## What a program sees -/

section Views

variable {σ τ : Type} [Console σ] [Console τ]

/-- A view of a host's state as a console: programs take lines from it and print to it, and nothing
shows in it of what the host is told about their outcomes. -/
structure ProgramView (echo : Bool) (view : σ → τ) : Prop where
  takeLine : ∀ s, Console.takeLine (view s) =
    ((Console.takeLine s).1, view (Console.takeLine s).2)
  print : ∀ text s, Console.print text (view s) =
    ((Console.print text s).1, view (Console.print text s).2)
  showOutcome : ∀ outcome s, view (showOutcome echo outcome s) = view s

variable {echo : Bool} {view : σ → τ} (hview : ProgramView echo view) (depth : Nat) (scope : Scope)
include hview

theorem ProgramView.indistinct : Indistinct fun (s : σ) (t : τ) => view s = t where
  takeLine := by
    rintro s t rfl
    rw [hview.takeLine]
    exact ⟨rfl, rfl⟩
  print := by
    rintro s t text rfl
    rw [hview.print]
    exact ⟨rfl, rfl⟩

theorem eval_view (e : Expr) (s : σ) :
    eval depth e scope (view s) = (eval depth e scope s).map fun p => (p.1, view p.2) := by
  have h := eval_indistinct hview.indistinct depth e scope (s := s) rfl
  generalize eval depth e scope s = x, eval depth e scope (view s) = y at h ⊢
  cases h with
  | none => rfl
  | some hpq => exact congrArg some (Prod.ext hpq.1.symm hpq.2.symm)

theorem runDatum_view (d : Datum) (s : σ) :
    runDatum depth scope d (view s) = (runDatum depth scope d s).map fun p => (p.1, view p.2) := by
  unfold runDatum
  cases Expr.ofDatum d with
  | error e => rfl
  | ok e =>
      simp only [eval_view hview]
      rcases eval depth e scope s with _ | ⟨e | v, s'⟩ <;> rfl

/-! ## Reading and evaluating in turn -/

/-- The data of a row of reads are evaluated in order, their failures are counted, and an error at
the end of the row is what the run ends with. -/
theorem replay_view {t : List Char} {rs : List ReadResult} (h : Reads t rs) (s : σ) :
    (replay echo depth scope rs s).map (fun p => (p.1, view p.2)) =
      (runData depth scope (dataOf rs) (view s)).map fun p =>
        ((readAll t).map fun _ => failureCount p.1, p.2) := by
  induction h generalizing s with
  | @stop t h =>
      cases hread : read t with
      | error e => rw [readAll_of_error hread]; rfl
      | ok r =>
          cases r with
          | none => rw [readAll_of_none hread]; rfl
          | some p => exact absurd hread (h p.1 p.2)
  | @next t rest d rs hread _ ih =>
      have hdata : dataOf (.ok (some (d, rest)) :: rs) = d :: dataOf rs := rfl
      rw [hdata, runData_cons, runDatum_view hview, replay, readAll_of_some hread]
      cases runDatum depth scope d s with
      | none => rfl
      | some p =>
          obtain ⟨outcome, s'⟩ := p
          have hrest := ih (showOutcome echo outcome s')
          rw [hview.showOutcome] at hrest
          simp only [Option.bind_some, Option.map_some]
          generalize replay echo depth scope rs (showOutcome echo outcome s') = x at hrest ⊢
          generalize runData depth scope (dataOf rs) (view s') = y at hrest ⊢
          rcases x with _ | ⟨result, s''⟩ <;> rcases y with _ | ⟨outcomes, a⟩
          · rfl
          · cases hrest
          · cases hrest
          · simp only [Option.map_some, Option.some.injEq, Prod.mk.injEq] at hrest
            obtain ⟨rfl, rfl⟩ := hrest
            simp only [Option.map_some, failureCount_cons]
            cases readAll rest <;> rfl

theorem runSource_view {t : List Char} {rs : List ReadResult} (h : Reads t rs) (s : σ) :
    (runSource echo depth scope t s).map (fun p => (p.1, view p.2)) =
      (runData depth scope (dataOf rs) (view s)).map fun p =>
        ((readAll t).map fun _ => failureCount p.1, p.2) := by
  rw [runSource_eq_replay echo depth scope h, replay_view hview depth scope h]

theorem runSource_eq_some_iff {t : List Char} {rs : List ReadResult} (h : Reads t rs) (s : σ)
    (r : Except ParseError Nat) (a : τ) :
    (∃ s', runSource echo depth scope t s = some (r, s') ∧ view s' = a) ↔
      ∃ outcomes, runData depth scope (dataOf rs) (view s) = some (outcomes, a) ∧
        (readAll t).map (fun _ => failureCount outcomes) = r := by
  have hview' := runSource_view hview depth scope h s
  constructor
  · rintro ⟨s', hrun, rfl⟩
    rw [hrun, Option.map_some] at hview'
    obtain ⟨⟨outcomes, a⟩, hdata, he⟩ := Option.map_eq_some_iff.1 hview'.symm
    obtain ⟨hr, ha⟩ := Prod.mk.inj he
    exact ⟨outcomes, by rw [hdata, ← ha], hr⟩
  · rintro ⟨outcomes, hdata, hr⟩
    rw [hdata, Option.map_some] at hview'
    obtain ⟨⟨r', s'⟩, hrun, he⟩ := Option.map_eq_some_iff.1 hview'
    obtain ⟨hr', ha⟩ := Prod.mk.inj he
    exact ⟨s', by rw [hrun, ← hr, ← hr'], ha⟩

/-- Running an entry and running a source agree. They succeed together, with the same state seen by
programs, and the source counts the failures among the outcomes of the entry. If the text cannot be
read, both fail alike. The entry has evaluated nothing then, and the source exactly the data before
the place, which are none if the fault is one of brackets. -/
theorem runEntry_agrees_runSource (t : List Char) (s : σ) :
    (∀ n a, (∃ outcomes, runEntry depth scope t (view s) = some (.ok outcomes, a) ∧
        failureCount outcomes = n) ↔
      ∃ s', runSource echo depth scope t s = some (.ok n, s') ∧ view s' = a) ∧
    ∀ e, readAll t = .error e →
      runEntry depth scope t (view s) = some (.error e, view s) ∧
      (∃ rs, Reads t rs ∧ rs.getLast? = some (.error e) ∧ ∀ r a,
        (∃ s', runSource echo depth scope t s = some (r, s') ∧ view s' = a) ↔
          r = .error e ∧ ∃ outcomes,
            runData depth scope (dataOf rs) (view s) = some (outcomes, a)) ∧
      (e = .incomplete ∨ e.IsBracketFault →
        runSource echo depth scope t s = some (.error e, s)) := by
  obtain ⟨rs, hrs⟩ := reads_exists t
  constructor
  · intro n a
    rw [runSource_eq_some_iff hview depth scope hrs s (.ok n) a]
    constructor
    · rintro ⟨outcomes, hentry, rfl⟩
      obtain ⟨ds, hds, hdata⟩ := (runEntry_ok_iff depth scope).1 hentry
      rw [hrs.dataOf_eq hds]
      exact ⟨outcomes, hdata, by rw [hds]; rfl⟩
    · rintro ⟨outcomes, hdata, hn⟩
      cases hds : readAll t with
      | error e => rw [hds] at hn; cases hn
      | ok ds =>
          rw [hrs.dataOf_eq hds] at hdata
          rw [hds] at hn
          exact ⟨outcomes, (runEntry_ok_iff depth scope).2 ⟨ds, hds, hdata⟩, Except.ok.inj hn⟩
  · intro e he
    refine ⟨runEntry_of_error depth scope he _, ⟨rs, hrs, hrs.getLast?_eq he, fun r a => ?_⟩,
      fun hfault => ?_⟩
    · rw [runSource_eq_some_iff hview depth scope hrs s r a, he]
      constructor
      · rintro ⟨outcomes, hdata, rfl⟩
        exact ⟨rfl, outcomes, hdata⟩
      · rintro ⟨rfl, outcomes, hdata⟩
        exact ⟨outcomes, hdata, rfl⟩
    · exact runSource_of_error depth scope echo (read_of_readAll_fault he hfault) s

end Views

/-- A console whose host is told nothing is its own view. -/
theorem programView_self {σ : Type} [Console σ] (echo : Bool)
    (hreport : ∀ text (s : σ), Console.report text s = s)
    (hannounce : ∀ text (s : σ), Console.announce text s = s) :
    ProgramView echo fun s : σ => s where
  takeLine _ := rfl
  print _ _ := rfl
  showOutcome outcome s := by
    cases outcome with
    | error f => exact hreport _ s
    | ok v =>
        cases echo with
        | false => rfl
        | true => exact hannounce _ s

/-- With room for three texts the second line loses its newline, so two of three data fail, and the
source counts them. A line is printed before a number that lacks a delimiter is found, and none
before an open bracket. -/
theorem entries_agree_with_sources :
    (∃ outcomes, runEntry 2 .topLevel "(println \"a\")(println \"b\")(if)".toList
          ({ room := 3 } : Limited) = some (.ok outcomes, { room := 0, output := "a\nb" }) ∧
        outcomes.map Outcome.failed = [false, true, true]) ∧
    runSource true 2 .topLevel "(println \"a\")(println \"b\")(if)".toList
        ({ room := 3 } : Limited) = some (.ok 2, { room := 0, output := "a\nb" }) ∧
    runEntry 2 .topLevel "(println \"a\")1x".toList (Recording.ofText "") =
      some (.error (.unreadable "1x"), Recording.ofText "") ∧
    runSource true 2 .topLevel "(println \"a\")1x".toList (Recording.ofText "") =
      some (.error (.unreadable "1x"), { input := [], output := "a\n" }) ∧
    runSource true 2 .topLevel "(println \"a\") (".toList (Recording.ofText "") =
      some (.error .incomplete, Recording.ofText "") := by
  have hagree := fun t => runEntry_agrees_runSource
    (programView_self true (fun _ (_ : Recording) => rfl) fun _ _ => rfl) 2 .topLevel t
    (Recording.ofText "")
  have hagree' := fun t => runEntry_agrees_runSource
    (programView_self true (fun _ (_ : Limited) => rfl) fun _ _ => rfl) 2 .topLevel t { room := 3 }
  have hbad : readAll "(println \"a\")1x".toList = .error (.unreadable "1x") := by
    with_unfolding_all rfl
  have hopen : readAll "(println \"a\") (".toList = .error .incomplete :=
    readAll_of_error (read_of_unbalanced rfl)
  have hread : readAll "(println \"a\")(println \"b\")(if)".toList =
      .ok [.list [.symbol "println", .text "a"], .list [.symbol "println", .text "b"],
        .list [.symbol "if"]] := by
    with_unfolding_all rfl
  obtain ⟨outcomes, hdata, hfailed, hcount⟩ : ∃ outcomes,
      runData 2 .topLevel [.list [.symbol "println", .text "a"],
          .list [.symbol "println", .text "b"], .list [.symbol "if"]] ({ room := 3 } : Limited) =
        some (outcomes, { room := 0, output := "a\nb" }) ∧
      outcomes.map Outcome.failed = [false, true, true] ∧ failureCount outcomes = 2 :=
    ⟨_, rfl, rfl, rfl⟩
  have hentry := (runEntry_ok_iff 2 .topLevel).2 ⟨_, hread, hdata⟩
  refine ⟨⟨outcomes, hentry, hfailed⟩, ?_, ((hagree _).2 _ hbad).1, ?_,
    ((hagree _).2 _ hopen).2.2 (Or.inl rfl)⟩
  · obtain ⟨_, hsource, rfl⟩ := ((hagree' _).1 2 _).1 ⟨outcomes, hentry, hcount⟩
    exact hsource
  · with_unfolding_all rfl

end ArrowLisp
