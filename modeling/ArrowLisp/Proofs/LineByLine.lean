import ArrowLisp.Proofs.JoinedTexts
import ArrowLisp.Proofs.ProgramRuns
import ArrowLisp.Session.Buffer

/-!
# Entries typed line by line

A session reads its pending lines anew with every line that is added, and evaluates them only when
they read to their end. So each datum is evaluated once, in the entry that completes it. Over a row
of accepted lines the outcomes, one entry after the other, are those of the whole text, and the
console is left in the same state.
-/

namespace ArrowLisp.Session

/-- The outcomes that a line brought. -/
def LineResult.outcomes : LineResult → List Outcome
  | .complete outcomes => outcomes
  | .needMore => []
  | .refused _ => []

namespace Buffer

variable {σ : Type} [Console σ] (depth : Nat) (scope : Scope)

/-- Gives lines to a buffer, one after another. -/
def handleLines : Buffer → List String → σ → Option (List LineResult × Buffer × σ)
  | b, [], s => some ([], b, s)
  | b, line :: rest, s =>
    (b.handleLine depth scope line s).bind fun (result, b', s') =>
      (handleLines b' rest s').map fun (results, b'', s'') => (result :: results, b'', s'')

/-! ## One line -/

theorem withLine_of_nonempty {b : Buffer} (h : b.pending ≠ "") (line : String) :
    b.withLine line = b.pending ++ "\n" ++ line := by
  have hm : b.isMultiline = true := by simp [isMultiline, h]
  rw [withLine, if_pos hm]

theorem withLine_append (b : Buffer) (line rest : String) :
    b.withLine (line ++ "\n" ++ rest) = b.withLine line ++ "\n" ++ rest := by
  unfold withLine
  split
  · simp only [String.append_assoc]
  · rfl

theorem handleLine_of_ok {b : Buffer} {line : String} {ds : List Datum}
    (h : readAll (b.withLine line).toList = .ok ds) (s : σ) :
    b.handleLine depth scope line s = (runData depth scope ds s).map fun p =>
      (.complete p.1, { pending := "", number := b.number + 1 }, p.2) := by
  simp only [handleLine, runEntry_of_ok depth scope h]
  cases runData depth scope ds s <;> rfl

theorem handleLine_of_incomplete {b : Buffer} {line : String}
    (h : readAll (b.withLine line).toList = .error .incomplete) (s : σ) :
    b.handleLine depth scope line s =
      some (.needMore, { b with pending := b.withLine line }, s) := by
  simp only [handleLine, runEntry_of_error depth scope h]

theorem handleLine_of_error {b : Buffer} {line : String} {e : ParseError}
    (h : readAll (b.withLine line).toList = .error e) (he : e ≠ .incomplete) (s : σ) :
    b.handleLine depth scope line s = some (.refused e, b.clear, s) := by
  simp only [handleLine, runEntry_of_error depth scope h]

/-- What becomes of a line: the entry is evaluated, kept until more comes, or refused. -/
theorem handleLine_cases {b b' : Buffer} {line : String} {s s' : σ} {result : LineResult}
    (h : b.handleLine depth scope line s = some (result, b', s')) :
    (∃ ds outcomes, readAll (b.withLine line).toList = .ok ds ∧
      runData depth scope ds s = some (outcomes, s') ∧ result = .complete outcomes ∧
      b' = { pending := "", number := b.number + 1 }) ∨
    (readAll (b.withLine line).toList = .error .incomplete ∧ result = .needMore ∧
      b' = { b with pending := b.withLine line } ∧ s' = s) ∨
    ∃ e, result = .refused e ∧ b' = b.clear := by
  cases hread : readAll (b.withLine line).toList with
  | ok ds =>
      rw [handleLine_of_ok depth scope hread] at h
      obtain ⟨p, hdata, he⟩ := Option.map_eq_some_iff.1 h
      simp only [Prod.mk.injEq] at he
      obtain ⟨rfl, rfl, rfl⟩ := he
      exact Or.inl ⟨ds, p.1, rfl, hdata, rfl, rfl⟩
  | error e =>
      by_cases he : e = .incomplete
      · subst he
        rw [handleLine_of_incomplete depth scope hread] at h
        cases h
        exact Or.inr (Or.inl ⟨rfl, rfl, rfl, rfl⟩)
      · rw [handleLine_of_error depth scope hread he] at h
        cases h
        exact Or.inr (Or.inr ⟨e, rfl, rfl⟩)

/-- An entry that waits for more is not empty. -/
theorem ne_empty_of_incomplete {entry : String} (h : readAll entry.toList = .error .incomplete) :
    entry ≠ "" := by
  rintro rfl
  have hnil : readAll [] = .ok [] := readAll_of_none (read_nil skipBlanks_nil)
  rw [show "".toList = [] from rfl, hnil] at h
  cases h

/-! ## Rows of lines -/

theorem readAll_lines {first rest : String} {ds ds' : List Datum}
    (h : readAll first.toList = .ok ds) (h' : readAll rest.toList = .ok ds') :
    readAll (first ++ "\n" ++ rest).toList = .ok (ds ++ ds') := by
  rw [String.toList_append, String.toList_append, List.append_assoc]
  show readAll (first.toList ++ '\n' :: rest.toList) = _
  rw [readAll_newline rest.toList h, h']
  rfl

theorem handleLines_eq_some {b b'' : Buffer} {line : String} {lines : List String} {s s'' : σ}
    {results : List LineResult}
    (h : b.handleLines depth scope (line :: lines) s = some (results, b'', s'')) :
    ∃ result b' s' results', b.handleLine depth scope line s = some (result, b', s') ∧
      b'.handleLines depth scope lines s' = some (results', b'', s'') ∧
      results = result :: results' := by
  obtain ⟨⟨result, b', s'⟩, hline, hrest⟩ := Option.bind_eq_some_iff.1 h
  obtain ⟨⟨results', c, t⟩, hlines, he⟩ := Option.map_eq_some_iff.1 hrest
  obtain ⟨rfl, rfl, rfl⟩ : _ ∧ _ ∧ _ := by simpa using he
  exact ⟨result, b', s', results', hline, hlines, rfl⟩

/-- Accepted lines whose last one completes an entry bring the outcomes of the whole text: of the
lines that were pending, if any, and the new ones. -/
theorem runData_of_handleLines {b b' : Buffer} {lines : List String} {s s' : σ}
    {results : List LineResult} (hrun : b.handleLines depth scope lines s = some (results, b', s'))
    (haccepted : ∀ r ∈ results, ∀ e, r ≠ .refused e)
    (hlast : ∃ outcomes, results.getLast? = some (.complete outcomes)) :
    ∃ ds, readAll (b.withLine ("\n".intercalate lines)).toList = .ok ds ∧
      runData depth scope ds s = some (results.flatMap LineResult.outcomes, s') := by
  induction lines generalizing b s results with
  | nil =>
      cases hrun
      obtain ⟨outcomes, hlast⟩ := hlast
      cases hlast
  | cons line lines ih =>
      obtain ⟨result, mid, t, results', hline, hlines, rfl⟩ := handleLines_eq_some depth scope hrun
      have haccepted' : ∀ r ∈ results', ∀ e, r ≠ .refused e :=
        fun r hr => haccepted r (List.mem_cons_of_mem result hr)
      cases lines with
      | nil =>
          -- The last line: it completes an entry by assumption.
          cases hlines
          obtain ⟨outcomes, hlast⟩ := hlast
          obtain rfl : result = .complete outcomes := by simpa using hlast
          rcases handleLine_cases depth scope hline with
            ⟨ds, outs, hread, hdata, hresult, -⟩ | ⟨-, hresult, -⟩ | ⟨e, hresult, -⟩
          · cases hresult
            refine ⟨ds, by rwa [String.intercalate_singleton], ?_⟩
            simpa [LineResult.outcomes] using hdata
          · cases hresult
          · cases hresult
      | cons next rest =>
          have hlast' : ∃ outcomes, results'.getLast? = some (.complete outcomes) := by
            obtain ⟨r, _, _, rs, -, -, rfl⟩ := handleLines_eq_some depth scope hlines
            rwa [List.getLast?_cons_cons] at hlast
          obtain ⟨ds', hread', hdata'⟩ := ih hlines haccepted' hlast'
          rw [String.intercalate_cons_cons, withLine_append]
          rcases handleLine_cases depth scope hline with
            ⟨ds, outs, hread, hdata, rfl, rfl⟩ | ⟨hread, rfl, rfl, rfl⟩ | ⟨e, rfl, -⟩
          · -- The entry is evaluated, and the lines after it start afresh.
            refine ⟨ds ++ ds', readAll_lines hread hread', ?_⟩
            rw [runData_append, hdata, Option.bind_some, hdata']
            rfl
          · -- The entry waits, and the lines after it are read together with it.
            have hpending : ({ b with pending := b.withLine line } : Buffer).pending ≠ "" :=
              ne_empty_of_incomplete hread
            rw [withLine_of_nonempty hpending] at hread'
            exact ⟨ds', hread', hdata'⟩
          · exact absurd rfl (haccepted _ List.mem_cons_self e)

end Buffer

/-- Lines given to a fresh buffer, each accepted and the last one completing an entry, bring the
outcomes of the lines run as one entry, and leave the console in the same state. Every datum of the
whole has one outcome. -/
theorem runEntry_of_handleLines {σ : Type} [Console σ] (depth : Nat) (scope : Scope)
    (lines : List String) (s s' : σ) (results : List LineResult) (b : Buffer)
    (hrun : Buffer.handleLines depth scope {} lines s = some (results, b, s'))
    (haccepted : ∀ r ∈ results, ∀ e, r ≠ .refused e)
    (hlast : ∃ outcomes, results.getLast? = some (.complete outcomes)) :
    runEntry depth scope ("\n".intercalate lines).toList s =
        some (.ok (results.flatMap LineResult.outcomes), s') ∧
      ∃ ds, readAll ("\n".intercalate lines).toList = .ok ds ∧
        (results.flatMap LineResult.outcomes).length = ds.length := by
  obtain ⟨ds, hread, hdata⟩ := Buffer.runData_of_handleLines depth scope hrun haccepted hlast
  exact ⟨(runEntry_ok_iff depth scope).2 ⟨ds, hread, hdata⟩, ds, hread,
    length_of_runData depth scope hdata⟩

/-- A call over two lines, the second of which ends in a comment, and a literal on a line. -/
theorem runEntry_of_three_lines :
    Buffer.handleLines 2 .topLevel {} ["(read-str", ") ; (", "\"b\""]
        ({ input := ["x", "y"] } : Recording) =
      some ([.needMore, .complete [.ok (.text "x")], .complete [.ok (.text "b")]],
        { number := 3 }, { input := ["y"], output := "> " }) ∧
    runEntry 2 .topLevel "(read-str\n) ; (\n\"b\"".toList ({ input := ["x", "y"] } : Recording) =
      some (.ok [.ok (.text "x"), .ok (.text "b")], { input := ["y"], output := "> " }) := by
  have hentry : readAll (Buffer.withLine ⟨"(read-str", 1⟩ ") ; (").toList =
      .ok [.list [.symbol "read-str"]] := by
    show readAll "(read-str\n) ; (".toList = _
    with_unfolding_all rfl
  have hliteral : readAll (Buffer.withLine ⟨"", 2⟩ "\"b\"").toList = .ok [.text "b"] := by
    with_unfolding_all rfl
  have hfirst : Buffer.handleLine 2 .topLevel {} "(read-str"
        ({ input := ["x", "y"] } : Recording) =
      some (.needMore, ⟨"(read-str", 1⟩, { input := ["x", "y"] }) :=
    Buffer.handleLine_of_incomplete 2 .topLevel (readAll_of_error (read_of_unbalanced rfl)) _
  have hsecond : Buffer.handleLine 2 .topLevel ⟨"(read-str", 1⟩ ") ; ("
        ({ input := ["x", "y"] } : Recording) =
      some (.complete [.ok (.text "x")], ⟨"", 2⟩, { input := ["y"], output := "> " }) := by
    rw [Buffer.handleLine_of_ok 2 .topLevel hentry]
    rfl
  have hthird : Buffer.handleLine 2 .topLevel ⟨"", 2⟩ "\"b\""
        ({ input := ["y"], output := "> " } : Recording) =
      some (.complete [.ok (.text "b")], ⟨"", 3⟩, { input := ["y"], output := "> " }) := by
    rw [Buffer.handleLine_of_ok 2 .topLevel hliteral]
    rfl
  have hrun : Buffer.handleLines 2 .topLevel {} ["(read-str", ") ; (", "\"b\""]
        ({ input := ["x", "y"] } : Recording) =
      some ([.needMore, .complete [.ok (.text "x")], .complete [.ok (.text "b")]],
        { number := 3 }, { input := ["y"], output := "> " }) := by
    simp only [Buffer.handleLines, hfirst, hsecond, hthird, Option.bind_some, Option.map_some]
  refine ⟨hrun, (runEntry_of_handleLines 2 .topLevel _ _ _ _ _ hrun ?_ ⟨_, rfl⟩).1⟩
  simp

end ArrowLisp.Session
