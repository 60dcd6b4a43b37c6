import ArrowLisp.Command.Run
import ArrowLisp.Proofs.IndependentData
import ArrowLisp.Proofs.JoinedTexts

/-!
# Running several files

Files are run one after another, each of them in a top level of its own. As long as all of them read
to their ends this is the same as running one text, which has their texts line below line. A run
depends on the data of a text only, joining texts by newlines joins the rows of their data, and the
top level is not changed by what runs in it. Nor are the files, so that each file is found as it was
before the first one ran.
-/

namespace ArrowLisp

open Session (World)

/-! ## The run of a text by its data -/

section Shown

variable {σ : Type} [Console σ] (echo : Bool) (depth : Nat) (scope : Scope)

/-- Evaluates data one after another and shows their outcomes; counts the failures. -/
def runShown : List Datum → σ → Option (Nat × σ)
  | [], s => some (0, s)
  | d :: ds, s =>
    (runDatum depth scope d s).bind fun p =>
      (runShown ds (showOutcome echo p.1 p.2)).map fun q =>
        (if p.1.failed then q.1 + 1 else q.1, q.2)

theorem replay_eq_runShown {rs : List ReadResult} {ds : List Datum} (h : collect rs = .ok ds)
    (s : σ) : replay echo depth scope rs s =
      (runShown echo depth scope ds s).map fun p => (.ok p.1, p.2) := by
  induction rs generalizing ds s with
  | nil =>
      cases h
      rfl
  | cons r rs ih =>
      rcases r with e | _ | ⟨d, rest⟩
      · cases h
      · cases h
        rfl
      · rw [collect] at h
        cases hrs : collect rs with
        | error e =>
            rw [hrs] at h
            cases h
        | ok ds' =>
            rw [hrs] at h
            cases h
            simp only [replay, runShown, ih hrs]
            cases runDatum depth scope d s with
            | none => rfl
            | some p => simp [Option.map_map, Function.comp_def, Except.map]

/-- How a text runs that reads to its end. -/
theorem runSource_of_readAll {t : List Char} {ds : List Datum} (h : readAll t = .ok ds) (s : σ) :
    runSource echo depth scope t s =
      (runShown echo depth scope ds s).map fun p => (.ok p.1, p.2) := by
  obtain ⟨rs, hrs⟩ := reads_exists t
  rw [runSource_eq_replay echo depth scope hrs]
  exact replay_eq_runShown echo depth scope ((readAll_eq_collect hrs).symm.trans h) s

theorem runShown_append (ds ds' : List Datum) (s : σ) :
    runShown echo depth scope (ds ++ ds') s =
      (runShown echo depth scope ds s).bind fun p =>
        (runShown echo depth scope ds' p.2).map fun q => (p.1 + q.1, q.2) := by
  induction ds generalizing s with
  | nil =>
      show _ = (runShown echo depth scope ds' s).map fun q => (0 + q.1, q.2)
      simp
  | cons d ds ih =>
      simp only [List.cons_append, runShown, ih]
      cases runDatum depth scope d s with
      | none => rfl
      | some p =>
          simp only [Option.bind_some]
          cases runShown echo depth scope ds (showOutcome echo p.1 p.2) with
          | none => rfl
          | some q =>
              simp only [Option.bind_some, Option.map_some, Option.map_map]
              refine congrArg (Option.map · _) (funext fun r => Prod.ext ?_ rfl)
              show (if p.1.failed then q.1 + r.1 + 1 else q.1 + r.1) =
                (if p.1.failed then q.1 + 1 else q.1) + r.1
              split <;> omega

end Shown

/-! ## Joined texts -/

/-- Texts line below line. -/
def joinLines (texts : List (List Char)) : List Char :=
  ['\n'].intercalate texts

theorem joinLines_cons_cons (t u : List Char) (texts : List (List Char)) :
    joinLines (t :: u :: texts) = t ++ '\n' :: joinLines (u :: texts) := by
  simp [joinLines, List.intercalate]

/-- The data of joined texts, in order. -/
theorem readAll_joinLines {texts : List (List Char)} {dss : List (List Datum)}
    (h : List.Forall₂ (fun t ds => readAll t = .ok ds) texts dss) :
    readAll (joinLines texts) = .ok dss.flatten := by
  induction h with
  | nil => exact readAll_of_none (read_nil (by simp [joinLines]))
  | @cons t ds texts dss ht hrest ih =>
      cases hrest with
      | nil => simpa [joinLines] using ht
      | cons hu hrest =>
          rw [joinLines_cons_cons, readAll_newline _ ht, ih]
          rfl

/-! ## Programs and files -/

/-- One and the same world with these files. -/
def SameWorldWith (files : Files) (v w : World) : Prop :=
  v = w ∧ v.files = files

theorem files_takeLine (w : World) : (Console.takeLine w).2.files = w.files := by
  show (World.takeLine w).2.files = w.files
  unfold World.takeLine World.readLine
  rcases w.stdin.readLine with ⟨_ | _ | cs, rest⟩ <;> rfl

theorem indistinct_sameWorldWith (files : Files) : Indistinct (SameWorldWith files) where
  takeLine h := by
    obtain ⟨rfl, hfiles⟩ := h
    exact ⟨rfl, rfl, (files_takeLine _).trans hfiles⟩
  print text h := by
    obtain ⟨rfl, hfiles⟩ := h
    exact ⟨rfl, rfl, hfiles⟩

theorem files_runDatum {depth : Nat} {scope : Scope} {d : Datum} {w w' : World} {outcome : Outcome}
    (h : runDatum depth scope d w = some (outcome, w')) : w'.files = w.files := by
  have hrun := runDatum_indistinct (indistinct_sameWorldWith w.files) depth scope d ⟨rfl, rfl⟩
  rw [h] at hrun
  cases hrun with
  | some hend => exact hend.2.2

theorem files_showOutcome (echo : Bool) (outcome : Outcome) (w : World) :
    (showOutcome echo outcome w).files = w.files := by
  cases outcome with
  | ok v => cases echo <;> rfl
  | error f => rfl

/-- No program changes a file. -/
theorem files_runShown {echo : Bool} {depth : Nat} {scope : Scope} {ds : List Datum} {w w' : World}
    {n : Nat} (h : runShown echo depth scope ds w = some (n, w')) : w'.files = w.files := by
  induction ds generalizing w n with
  | nil =>
      cases h
      rfl
  | cons d ds ih =>
      obtain ⟨p, hp, hrest⟩ := Option.bind_eq_some_iff.1 h
      obtain ⟨q, hq, he⟩ := Option.map_eq_some_iff.1 hrest
      cases he
      rw [ih hq, files_showOutcome, files_runDatum hp]

namespace Command

/-- The file at the path is a text with these data. -/
def HasData (files : Files) (path : String) (ds : List Datum) : Prop :=
  ∃ t, files.readText path = .ok t ∧ readAll t = .ok ds

theorem runFile_of_hasData {path : String} {ds : List Datum} {w : World}
    (h : HasData w.files path ds) (depth : Nat) :
    runFile depth path w =
      (runShown false depth Scope.topLevel ds w).map fun p => (.ok p.1, p.2) := by
  obtain ⟨t, htext, hread⟩ := h
  simp only [runFile, htext, runSource_of_readAll false depth Scope.topLevel hread]
  cases runShown false depth Scope.topLevel ds w <;> rfl

/-- Files run like the row of all their data. -/
theorem runFiles_of_hasData {files : Files} {paths : List String} {dss : List (List Datum)}
    (h : List.Forall₂ (HasData files) paths dss) (depth : Nat) {w : World} (hw : w.files = files) :
    runFiles depth paths w =
      (runShown false depth Scope.topLevel dss.flatten w).map fun p => (.ok p.1, p.2) := by
  induction h generalizing w with
  | nil => rfl
  | @cons path ds paths dss hfirst _ ih =>
      subst hw
      rw [List.flatten_cons, runShown_append, runFiles, runFile_of_hasData hfirst]
      cases hrun : runShown false depth Scope.topLevel ds w with
      | none => rfl
      | some p =>
          simp only [Option.map_some, Option.bind_some, ih (files_runShown hrun)]
          cases runShown false depth Scope.topLevel dss.flatten p.2 <;> rfl

theorem exists_hasData {files : Files} {paths : List String} {texts : List (List Char)}
    (hfiles : List.Forall₂ (fun path t => files.readText path = .ok t) paths texts)
    (hreads : ∀ t ∈ texts, ∃ ds, readAll t = .ok ds) :
    ∃ dss, List.Forall₂ (fun t ds => readAll t = .ok ds) texts dss ∧
      List.Forall₂ (HasData files) paths dss := by
  induction hfiles with
  | nil => exact ⟨[], .nil, .nil⟩
  | @cons path t paths texts htext _ ih =>
      obtain ⟨ds, hds⟩ := hreads t (by simp)
      obtain ⟨dss, htexts, hpaths⟩ := ih fun u hu => hreads u (by simp [hu])
      exact ⟨ds :: dss, .cons hds htexts, .cons ⟨t, htext, hds⟩ hpaths⟩

theorem failureEnd_outcome_eq_ok_iff (n : Nat) : (failureEnd n).outcome = .ok () ↔ n = 0 := by
  rcases n with _ | _ | n <;> simp [failureEnd, JobEnd.outcome]

theorem perform_files (settings : Settings) (vars : Variables) {paths : List String} {w : World}
    {run : Option (Nat × World)}
    (h : runFiles (stackDepth settings.stackSize) paths w = run.map fun p => (.ok p.1, p.2)) :
    perform settings vars (.run none paths) w = run.map fun p => (p.2, failureEnd p.1) := by
  simp only [perform, h]
  cases run <;> rfl

/-- Files that are texts and read to their ends run like their texts in one, line below line: there
are as many failures, and the same is printed, reported and taken from the input. A run of the files
is without complaint exactly if that text runs without a failure. -/
theorem runFiles_eq_runSource_joinLines {w : World} {paths : List String}
    {texts : List (List Char)}
    (hfiles : List.Forall₂ (fun path t => w.files.readText path = .ok t) paths texts)
    (hreads : ∀ t ∈ texts, ∃ ds, readAll t = .ok ds) :
    (∀ depth, ∃ run : Option (Nat × World),
      runFiles depth paths w = run.map (fun p => (.ok p.1, p.2)) ∧
      runSource false depth Scope.topLevel (joinLines texts) w =
        run.map fun p => (.ok p.1, p.2)) ∧
    ∀ (settings : Settings) (vars : Variables) (w' : World),
      (∃ job, perform settings vars (.run none paths) w = some (w', job) ∧ job.outcome = .ok ()) ↔
        runSource false (stackDepth settings.stackSize) Scope.topLevel (joinLines texts) w =
          some (.ok 0, w') := by
  obtain ⟨dss, htexts, hpaths⟩ := exists_hasData hfiles hreads
  have hjoined := fun depth => runSource_of_readAll false depth Scope.topLevel
    (readAll_joinLines htexts) w
  have hrun := fun depth => runFiles_of_hasData hpaths depth rfl
  refine ⟨fun depth => ⟨_, hrun depth, hjoined depth⟩, fun settings vars w' => ?_⟩
  rw [perform_files settings vars (hrun _), hjoined]
  cases runShown false (stackDepth settings.stackSize) Scope.topLevel dss.flatten w with
  | none => simp
  | some p =>
      obtain ⟨n, w₁⟩ := p
      constructor
      · intro ⟨job, hjob, hok⟩
        cases hjob
        rw [(failureEnd_outcome_eq_ok_iff n).1 hok]
        rfl
      · intro h
        cases h
        exact ⟨.done, rfl, rfl⟩

/-- Two files, the first of which ends in a comment with an open bracket, and two lines of input. -/
def twoFiles : World :=
  { stdin := .ofText "x\ny\n".toList
    files := .ofList
      [("a", .file (.ofText "(println (read-str)) ;(".toList)),
        ("b", .file (.ofText "[missing](println [read-str])".toList))]
    palette := ⟨false⟩ }

/-- The second file has a failure, and takes the line after the one that the first file takes. -/
theorem runFiles_twoFiles :
    twoFiles.files.readText "a" = .ok "(println (read-str)) ;(".toList ∧
    twoFiles.files.readText "b" = .ok "[missing](println [read-str])".toList ∧
    ∃ w', runFiles 4 ["a", "b"] twoFiles = some (.ok 1, w') ∧
      runSource false 4 Scope.topLevel
        (joinLines ["(println (read-str)) ;(".toList, "[missing](println [read-str])".toList])
        twoFiles = some (.ok 1, w') ∧
      w'.stdout = "> x\n> y\n" ∧ w'.stdin = [] := by
  have ha : twoFiles.files.readText "a" = .ok "(println (read-str)) ;(".toList := by
    with_unfolding_all rfl
  have hb : twoFiles.files.readText "b" = .ok "[missing](println [read-str])".toList := by
    with_unfolding_all rfl
  have hreadA : readAll "(println (read-str)) ;(".toList =
      .ok [.list [.symbol "println", .list [.symbol "read-str"]]] := by with_unfolding_all rfl
  have hreadB : readAll "[missing](println [read-str])".toList =
      .ok [.list [.symbol "missing"], .list [.symbol "println", .list [.symbol "read-str"]]] := by
    with_unfolding_all rfl
  obtain ⟨w', hshown, hout, hin⟩ : ∃ w', runShown false 4 Scope.topLevel
      [.list [.symbol "println", .list [.symbol "read-str"]],
        .list [.symbol "missing"], .list [.symbol "println", .list [.symbol "read-str"]]]
      twoFiles = some (1, w') ∧ w'.stdout = "> x\n> y\n" ∧ w'.stdin = [] :=
    ⟨_, rfl, rfl, rfl⟩
  obtain ⟨run, hfiles, hsource⟩ := (runFiles_eq_runSource_joinLines (.cons ha (.cons hb .nil))
    (by simp only [List.forall_mem_cons]; exact ⟨⟨_, hreadA⟩, ⟨_, hreadB⟩, by simp⟩)).1 4
  have hjoined := (runSource_of_readAll false 4 Scope.topLevel
    (readAll_joinLines (.cons hreadA (.cons hreadB .nil))) twoFiles).trans
      (congrArg (Option.map _) hshown)
  have hrun : run = some (1, w') := by
    have hboth := hsource.symm.trans hjoined
    rcases run with _ | ⟨n, w₁⟩
    · cases hboth
    · cases hboth
      rfl
  rw [hrun] at hfiles
  exact ⟨ha, hb, w', hfiles, hjoined, hout, hin⟩

end Command

end ArrowLisp
