import ArrowLisp.Proofs.ProgramRuns
import ArrowLisp.Proofs.WrittenForm

/-!
# Parsing a text at once and piece by piece

A program is parsed at once by reading all of its text and turning the data into expressions
afterwards. Parsed piece by piece, each datum is turned into an expression before the next one is
read. Both make the same reads and look at the same data; they differ in what comes first, the end
of the reading or the first datum that writes no expression. So they accept the same texts, and
give different errors only where a text has both faults.
-/

namespace ArrowLisp

namespace Expr

/-! ## One expression after another -/

theorem parse_of_error {cs : List Char} {e : ParseError} (h : read cs = .error e) :
    parse cs = .error e := by
  rw [parse, h]
  rfl

theorem parse_of_none {cs : List Char} (h : read cs = .ok none) : parse cs = .ok none := by
  rw [parse, h]
  rfl

theorem parse_of_some {cs rest : List Char} {d : Datum} (h : read cs = .ok (some (d, rest))) :
    parse cs = (ofDatum d).map fun e => some (e, rest) := by
  rw [parse, h]
  cases hd : ofDatum d <;> simp [bind, Except.bind, hd, pure, Except.pure, Except.map]

/-- An expression is parsed off the front only together with its datum. -/
theorem read_of_parse {cs rest : List Char} {e : Expr} (h : parse cs = .ok (some (e, rest))) :
    ∃ d, read cs = .ok (some (d, rest)) ∧ ofDatum d = .ok e := by
  cases hread : read cs with
  | error f =>
      rw [parse_of_error hread] at h
      cases h
  | ok r =>
      cases r with
      | none =>
          rw [parse_of_none hread] at h
          cases h
      | some p =>
          rw [parse_of_some hread] at h
          cases hd : ofDatum p.1 with
          | error f =>
              rw [hd] at h
              cases h
          | ok e' =>
              rw [hd] at h
              cases h
              exact ⟨p.1, rfl, hd⟩

theorem length_of_parse {cs rest : List Char} {e : Expr} (h : parse cs = .ok (some (e, rest))) :
    rest.length < cs.length := by
  obtain ⟨d, hread, -⟩ := read_of_parse h
  exact length_of_read hread

/-- Parses a text again and again, each time from where the last expression ended, up to the end of
the text or the first error. -/
def parseEach (cs : List Char) : Except ParseError (List Expr) :=
  match _h : parse cs with
  | .error e => .error e
  | .ok none => .ok []
  | .ok (some (e, rest)) =>
    match parseEach rest with
    | .error f => .error f
    | .ok es => .ok (e :: es)
termination_by cs.length
decreasing_by exact length_of_parse _h

theorem parseEach_of_error {cs : List Char} {e : ParseError} (h : parse cs = .error e) :
    parseEach cs = .error e := by
  rw [parseEach]
  split
  · next he => rw [h] at he; cases he; rfl
  · next he => rw [h] at he; cases he
  · next he => rw [h] at he; cases he

theorem parseEach_of_none {cs : List Char} (h : parse cs = .ok none) : parseEach cs = .ok [] := by
  rw [parseEach]
  split
  · next he => rw [h] at he; cases he
  · rfl
  · next he => rw [h] at he; cases he

theorem parseEach_of_some {cs rest : List Char} {e : Expr} (h : parse cs = .ok (some (e, rest))) :
    parseEach cs = (parseEach rest).map (e :: ·) := by
  rw [parseEach]
  split
  · next he => rw [h] at he; cases he
  · next he => rw [h] at he; cases he
  · next he =>
    rw [h] at he
    cases he
    cases parseEach rest <;> rfl

/-! ## The same checks in two orders -/

theorem ofData_cons (d : Datum) (ds : List Datum) :
    ofData (d :: ds) = (ofDatum d).bind fun e => (ofData ds).map (e :: ·) := by
  rw [ofData]
  cases hd : ofDatum d with
  | error f => rfl
  | ok e => cases hds : ofData ds <;> rfl

/-- Several data fail together with the first of them that fails. -/
theorem ofData_eq_error_iff {ds : List Datum} {f : ParseError} :
    ofData ds = .error f ↔ ∃ before d after, ds = before ++ d :: after ∧
      (∀ b ∈ before, ∃ e, ofDatum b = .ok e) ∧ ofDatum d = .error f := by
  induction ds with
  | nil => simp [ofData]
  | cons d ds ih =>
      rw [ofData_cons]
      constructor
      · intro h
        cases hd : ofDatum d with
        | error f' =>
            rw [hd] at h
            cases h
            exact ⟨[], d, ds, rfl, by simp, hd⟩
        | ok e =>
            rw [hd] at h
            cases hds : ofData ds with
            | ok es =>
                rw [hds] at h
                cases h
            | error f' =>
                rw [hds] at h
                cases h
                obtain ⟨before, b, after, rfl, hbefore, hb⟩ := ih.1 hds
                refine ⟨d :: before, b, after, rfl, fun x hx => ?_, hb⟩
                rcases List.mem_cons.1 hx with rfl | hx
                · exact ⟨e, hd⟩
                · exact hbefore x hx
      · intro h
        obtain ⟨before, b, after, hsplit, hbefore, hb⟩ := h
        cases before with
        | nil =>
            obtain ⟨rfl, rfl⟩ := List.cons.inj hsplit
            rw [hb]
            rfl
        | cons x before =>
            obtain ⟨rfl, rfl⟩ := List.cons.inj hsplit
            obtain ⟨e, he⟩ := hbefore d List.mem_cons_self
            have hrest := ih.2 ⟨before, b, after, rfl,
              fun y hy => hbefore y (List.mem_cons_of_mem d hy), hb⟩
            rw [he, hrest]
            rfl

/-- At once: the reading has to end well before the first datum is looked at. -/
theorem parseProgram_eq {t : List Char} {rs : List ReadResult} (h : Reads t rs) :
    parseProgram t = (readAll t).bind fun _ => ofData (dataOf rs) := by
  rw [parseProgram]
  cases hread : readAll t with
  | error e => rfl
  | ok ds =>
      rw [h.dataOf_eq hread]
      rfl

/-- Piece by piece: all data are looked at before the end of the reading is met. -/
theorem parseEach_eq {t : List Char} {rs : List ReadResult} (h : Reads t rs) :
    parseEach t = (ofData (dataOf rs)).bind fun es => (readAll t).map fun _ => es := by
  induction h with
  | @stop t h =>
      cases hread : read t with
      | error e =>
          rw [parseEach_of_error (parse_of_error hread), readAll_of_error hread]
          rfl
      | ok r =>
          cases r with
          | none =>
              rw [parseEach_of_none (parse_of_none hread), readAll_of_none hread]
              rfl
          | some p => exact absurd hread (h p.1 p.2)
  | @next t rest d rs hread _ ih =>
      have hdata : dataOf (.ok (some (d, rest)) :: rs) = d :: dataOf rs := rfl
      have hparse := parse_of_some hread
      rw [hdata, ofData_cons, readAll_of_some hread]
      cases hd : ofDatum d with
      | error f =>
          rw [hd] at hparse
          exact parseEach_of_error hparse
      | ok e =>
          rw [hd] at hparse
          rw [parseEach_of_some hparse, ih]
          cases ofData (dataOf rs) with
          | error f => rfl
          | ok es => cases readAll rest <;> rfl

end Expr

/-! ## Which error comes first -/

open ArrowLisp.Expr

/-- The row of reads ends in an error only where reading all of the text does. -/
theorem Reads.getLast?_eq_error_iff {t : List Char} {rs : List ReadResult} {e : ParseError}
    (h : Reads t rs) : rs.getLast? = some (.error e) ↔ readAll t = .error e := by
  refine ⟨fun hlast => ?_, h.getLast?_eq⟩
  induction h with
  | stop _ => exact readAll_of_error (Option.some.inj hlast)
  | @next t rest d rs hread tail ih =>
      have hne : rs ≠ [] := by cases tail <;> simp
      obtain ⟨r, rs', rfl⟩ := List.exists_cons_of_ne_nil hne
      rw [readAll_of_some hread, ih (by rwa [List.getLast?_cons_cons] at hlast)]
      rfl

/-- After a datum no bracket fault is met any more. -/
theorem Reads.unreadable_of_error {t : List Char} {rs : List ReadResult} {e : ParseError}
    (h : Reads t rs) (hdata : dataOf rs ≠ []) (he : readAll t = .error e) :
    ∃ start, e = .unreadable start := by
  cases h with
  | @stop t h =>
      rcases hread : read t with f | _ | p
      · rw [hread] at hdata
        exact absurd rfl hdata
      · rw [hread] at hdata
        exact absurd rfl hdata
      · exact absurd hread (h p.1 p.2)
  | next hread _ =>
      rcases error_of_readAll he with hverdict | ⟨-, hstart⟩
      · rw [(read_eq_some hread).1] at hverdict
        cases hverdict
      · exact hstart

/-- The reads of the text end at an unreadable place, and of the data before that place the first
that writes no expression is rejected for the given reason. -/
def RejectedBeforeUnreadable (t : List Char) (rejection : ParseError) (start : String) : Prop :=
  ∃ rs before d after, Reads t rs ∧ rs.getLast? = some (.error (.unreadable start)) ∧
    dataOf rs = before ++ d :: after ∧ (∀ b ∈ before, ∃ e, ofDatum b = .ok e) ∧
    ofDatum d = .error rejection

/-- A program is parsed at once exactly if it is parsed piece by piece, to the same expressions. If
it is not, both ways give an error. The errors are equal, unless a rejected datum comes before an
unreadable place: then the one way reports the place, and the other the first rejection. -/
theorem parseProgram_agrees_parseEach (t : List Char) :
    (∀ es, parseProgram t = .ok es ↔ parseEach t = .ok es) ∧
    (∀ e, parseProgram t = .error e → ∃ e', parseEach t = .error e' ∧
      (e' = e ∨ ∃ rejection start, RejectedBeforeUnreadable t rejection start)) ∧
    ∀ rejection start, RejectedBeforeUnreadable t rejection start →
      parseProgram t = .error (.unreadable start) ∧ parseEach t = .error rejection := by
  obtain ⟨rs, hrs⟩ := reads_exists t
  refine ⟨fun es => ?_, fun e he => ?_, fun rejection start h => ?_⟩
  · rw [parseProgram_eq hrs, parseEach_eq hrs]
    cases readAll t with
    | error f => cases ofData (dataOf rs) <;> exact ⟨nofun, nofun⟩
    | ok ds => cases ofData (dataOf rs) <;> exact Iff.rfl
  · rw [parseProgram_eq hrs] at he
    rw [parseEach_eq hrs]
    cases hdata : ofData (dataOf rs) with
    | ok es =>
        -- Nothing is rejected, so both ways come to the end of the reading.
        rw [hdata] at he
        cases hread : readAll t with
        | ok ds =>
            rw [hread] at he
            cases he
        | error f =>
            rw [hread] at he
            exact ⟨f, rfl, Or.inl (Except.error.inj he)⟩
    | error rejection =>
        rw [hdata] at he
        refine ⟨rejection, rfl, ?_⟩
        cases hread : readAll t with
        | ok ds =>
            rw [hread] at he
            exact Or.inl (Except.error.inj he)
        | error f =>
            obtain ⟨before, d, after, hsplit, hbefore, hd⟩ := ofData_eq_error_iff.1 hdata
            obtain ⟨start, rfl⟩ := hrs.unreadable_of_error (by simp [hsplit]) hread
            exact Or.inr ⟨rejection, start, rs, before, d, after, hrs, hrs.getLast?_eq hread,
              hsplit, hbefore, hd⟩
  · obtain ⟨rs', before, d, after, hrs', hlast, hsplit, hbefore, hd⟩ := h
    have hread := hrs'.getLast?_eq_error_iff.1 hlast
    have hdata := ofData_eq_error_iff.2 ⟨before, d, after, hsplit, hbefore, hd⟩
    rw [parseProgram_eq hrs', parseEach_eq hrs', hread, hdata]
    exact ⟨rfl, rfl⟩

/-- A name, a branch without its parts, and a number that runs into a letter. -/
theorem branch_before_bad_number :
    parseProgram "f (if) 1x".toList = .error (.unreadable "1x") ∧
      parseEach "f (if) 1x".toList = .error (.branchParts 0) := by
  have hfirst : read "f (if) 1x".toList = .ok (some (.symbol "f", " (if) 1x".toList)) := by
    with_unfolding_all rfl
  have hsecond : read " (if) 1x".toList =
      .ok (some (.list [.symbol "if"], " 1x".toList)) := by
    with_unfolding_all rfl
  have hthird : read " 1x".toList = .error (.unreadable "1x") := by
    with_unfolding_all rfl
  have hstop : Reads " 1x".toList [read " 1x".toList] := by
    refine .stop fun d rest hread => ?_
    rw [hthird] at hread
    cases hread
  rw [hthird] at hstop
  have hbefore : ∀ b ∈ [Datum.symbol "f"], ∃ e, ofDatum b = .ok e := by
    intro b hb
    rw [List.mem_singleton.1 hb]
    exact ⟨.name "f", rfl⟩
  exact (parseProgram_agrees_parseEach _).2.2 _ _
    ⟨_, [.symbol "f"], .list [.symbol "if"], [], .next hfirst (.next hsecond hstop), rfl, rfl,
      hbefore, rfl⟩

end ArrowLisp
