import ArrowLisp.Proofs.LineByLine
import Mathlib.Data.List.DropRight

/-!
# The lines that wait

A buffer is given lines and may be interrupted between them. What it holds at any time are the lines
given since the last one that completed an entry or was refused, or since the last interrupt; and if
there are any, they ask for more. The lines may stop inside a comment, a literal or an escape, under
any brackets. The line break before the next line ends a comment and uses up an escape, so a single
line is enough to close all that is still open.
-/

namespace ArrowLisp.Session

/-! ## Turns -/

/-- What happens to a buffer: a line is given and has its result, or the user interrupts. -/
inductive Turn where
  | line (text : String) (result : LineResult)
  | interrupt

namespace Turn

/-- Does the line of this turn wait for more? -/
def waits : Turn → Bool
  | .line _ .needMore => true
  | _ => false

/-- Does the line of this turn complete an entry? -/
def completes : Turn → Bool
  | .line _ (.complete _) => true
  | _ => false

def text? : Turn → Option String
  | .line text _ => some text
  | .interrupt => none

end Turn

/-- The lines given since the last turn that left nothing waiting. -/
def pendingLines (turns : List Turn) : List String :=
  (turns.rtakeWhile Turn.waits).filterMap Turn.text?

theorem pendingLines_of_waits {turn : Turn} {text : String} (turns : List Turn)
    (h : turn.waits = true) (htext : turn.text? = some text) :
    pendingLines (turns ++ [turn]) = pendingLines turns ++ [text] := by
  rw [pendingLines, List.rtakeWhile_concat_pos _ _ _ h, List.filterMap_append]
  simp [pendingLines, htext]

theorem pendingLines_of_not_waits {turn : Turn} (turns : List Turn) (h : turn.waits = false) :
    pendingLines (turns ++ [turn]) = [] := by
  rw [pendingLines, List.rtakeWhile_concat_neg _ _ _ (by simp [h])]
  rfl

namespace Buffer

/-- The buffers that a session comes to from a fresh one. Lines are evaluated on whatever console
there is at their turn, since a session takes its own lines from there too. -/
inductive After (σ : Type) [Console σ] (scope : Scope) : List Turn → Buffer → Prop
  | fresh : After σ scope [] {}
  | line {turns : List Turn} {b b' : Buffer} {depth : Nat} {text : String} {s s' : σ}
      {result : LineResult} :
      After σ scope turns b → b.handleLine depth scope text s = some (result, b', s') →
      After σ scope (turns ++ [.line text result]) b'
  | interrupt {turns : List Turn} {b : Buffer} :
      After σ scope turns b → After σ scope (turns ++ [.interrupt]) b.clear

/-! ## What a buffer holds -/

/-- The buffer holds these lines, and if there are any, they ask for more. -/
structure Holds (b : Buffer) (lines : List String) : Prop where
  pending_eq : b.pending = "\n".intercalate lines
  incomplete : lines ≠ [] → readAll b.pending.toList = .error .incomplete

theorem holds_of_empty {b : Buffer} (h : b.pending = "") : b.Holds [] :=
  ⟨h, fun hne => absurd rfl hne⟩

namespace Holds

variable {b : Buffer} {lines : List String}

theorem isMultiline_iff (h : b.Holds lines) : b.isMultiline = true ↔ lines ≠ [] := by
  constructor
  · intro hb hlines
    rw [hlines] at h
    have hempty : b.pending = "" := h.pending_eq
    rw [isMultiline, hempty] at hb
    cases hb
  · intro hlines
    have hne := ne_empty_of_incomplete (h.incomplete hlines)
    simpa [isMultiline] using hne

/-- A line is joined to those that wait. -/
theorem withLine_eq (h : b.Holds lines) (line : String) :
    b.withLine line = "\n".intercalate (lines ++ [line]) := by
  by_cases hlines : lines = []
  · have hb : ¬b.isMultiline = true := fun hb => h.isMultiline_iff.1 hb hlines
    rw [withLine, if_neg hb, hlines, List.nil_append, String.intercalate_singleton]
  · rw [withLine_of_nonempty (ne_empty_of_incomplete (h.incomplete hlines)), h.pending_eq,
      String.intercalate_append_of_ne_nil hlines (by simp), String.intercalate_singleton]

/-- What one line does: it waits behind the others, or nothing waits any more. -/
theorem handleLine {σ : Type} [Console σ] {depth : Nat} {scope : Scope} {b' : Buffer}
    {turns : List Turn} {text : String} {s s' : σ} {result : LineResult}
    (h : b.Holds (pendingLines turns))
    (hline : b.handleLine depth scope text s = some (result, b', s')) :
    b'.Holds (pendingLines (turns ++ [.line text result])) ∧
      b'.number = b.number + [Turn.line text result].countP Turn.completes := by
  rcases handleLine_cases depth scope hline with
    ⟨ds, outcomes, -, -, rfl, rfl⟩ | ⟨hread, rfl, rfl, -⟩ | ⟨e, rfl, rfl⟩
  · rw [pendingLines_of_not_waits turns rfl]
    exact ⟨holds_of_empty rfl, rfl⟩
  · rw [pendingLines_of_waits turns rfl rfl]
    exact ⟨⟨h.withLine_eq text, fun _ => hread⟩, rfl⟩
  · rw [pendingLines_of_not_waits turns rfl]
    exact ⟨holds_of_empty rfl, rfl⟩

end Holds

/-- All along a session the buffer holds the pending lines and counts the entries. -/
theorem After.holds {σ : Type} [Console σ] {scope : Scope} {turns : List Turn} {b : Buffer}
    (h : After σ scope turns b) :
    b.Holds (pendingLines turns) ∧ b.number = 1 + turns.countP Turn.completes := by
  induction h with
  | fresh => exact ⟨holds_of_empty rfl, rfl⟩
  | line _ hline ih =>
      obtain ⟨hholds, hnumber⟩ := ih.1.handleLine hline
      refine ⟨hholds, ?_⟩
      rw [hnumber, ih.2, List.countP_append]
      omega
  | @interrupt turns b _ ih =>
      rw [pendingLines_of_not_waits turns rfl, List.countP_append]
      exact ⟨holds_of_empty rfl, ih.2⟩

end Buffer

/-! ## A line that leads out -/

/-- A line break leads out of a comment and out of an escape. -/
theorem newline_not_mem_leave (r : Region) : '\n' ∉ (r.next '\n').leave := by
  cases r with
  | code => decide
  | comment => decide
  | literal escaped => cases escaped <;> decide

theorem step_newline (st : ScanState) : st.step '\n' = .ok ⟨st.region.next '\n', st.owed⟩ := by
  obtain ⟨region, owed⟩ := st
  cases region <;> rfl

theorem newline_not_owed {st : ScanState} (h : st.OwesClosers) : '\n' ∉ st.owed := by
  intro hmem
  obtain ⟨c, hc⟩ := h '\n' hmem
  rcases closer_cases hc with h | h | h <;> cases h

/-- A text that asks for more is completed by some line after a line break. -/
theorem exists_completing_line {t : List Char} (h : balance t = .incomplete) :
    ∃ line : List Char, '\n' ∉ line ∧ balance (t ++ '\n' :: line) = .balanced := by
  rcases ScanState.start.run_cases t ScanState.owesClosers_start with
    ⟨v, hrun, hv⟩ | ⟨st, hrun, howes⟩
  · have hfault := balance_of_error hrun []
    rw [List.append_nil, h] at hfault
    rw [← hfault] at hv
    cases hv
  · -- The state after the line break, which owes the same brackets.
    let mid : ScanState := ⟨st.region.next '\n', st.owed⟩
    have hmid : ScanState.start.run (t ++ ['\n']) = .ok mid := by
      rw [ScanState.run_append_of_ok hrun, ScanState.run, step_newline]
      rfl
    refine ⟨mid.closing, ?_, ?_⟩
    · rw [ScanState.closing, List.mem_append]
      intro hmem
      rcases hmem with hleave | howed
      · exact newline_not_mem_leave st.region hleave
      · exact newline_not_owed howes howed
    · rw [List.append_cons]
      exact balance_closing hmid howes

theorem readAll_ne_incomplete {t : List Char} (h : balance t = .balanced) :
    readAll t ≠ .error .incomplete := by
  intro hread
  rcases error_of_readAll hread with hverdict | ⟨-, start, he⟩
  · rw [h] at hverdict
    cases hverdict
  · cases he

/-- A line that does not make the entry ask for more ends it. -/
theorem isMultiline_of_handleLine {σ : Type} [Console σ] {depth : Nat} {scope : Scope}
    {b b' : Buffer} {line : String} {s s' : σ} {result : LineResult}
    (hentry : readAll (b.withLine line).toList ≠ .error .incomplete)
    (hline : b.handleLine depth scope line s = some (result, b', s')) :
    b'.isMultiline = false := by
  rcases Buffer.handleLine_cases depth scope hline with
    ⟨ds, outcomes, -, -, -, rfl⟩ | ⟨hread, -⟩ | ⟨e, -, rfl⟩
  · rfl
  · exact absurd hread hentry
  · rfl

/-- The buffer of a session, after any lines and interrupts: it is the pending lines joined by line
breaks, its number counts the completed entries, and it is empty exactly if no line is pending.
Otherwise the lines ask for more, and there is a single line after which they do not, so that the
session is back at a fresh entry whenever the evaluation returns. -/
theorem buffer_holds_pendingLines {σ : Type} [Console σ] {scope : Scope} {turns : List Turn}
    {b : Buffer} (h : Buffer.After σ scope turns b) :
    b.pending = "\n".intercalate (pendingLines turns) ∧
    (b.isMultiline = true ↔ pendingLines turns ≠ []) ∧
    b.number = 1 + turns.countP Turn.completes ∧
    (pendingLines turns ≠ [] →
      readAll b.pending.toList = .error .incomplete ∧
      ∃ line : String, '\n' ∉ line.toList ∧
        readAll (b.pending ++ "\n" ++ line).toList ≠ .error .incomplete ∧
        ∀ (depth : Nat) (s s' : σ) (result : LineResult) (b' : Buffer),
          b.handleLine depth scope line s = some (result, b', s') → b'.isMultiline = false) := by
  obtain ⟨hholds, hnumber⟩ := h.holds
  refine ⟨hholds.pending_eq, hholds.isMultiline_iff, hnumber, fun hlines => ?_⟩
  have hread := hholds.incomplete hlines
  have hbalance : balance b.pending.toList = .incomplete :=
    read_eq_incomplete_iff.1 (read_of_readAll_fault hread (Or.inl rfl))
  obtain ⟨line, hnewline, hbalanced⟩ := exists_completing_line hbalance
  have hjoined : (b.pending ++ "\n" ++ String.ofList line).toList =
      b.pending.toList ++ '\n' :: line := by
    simp
  have hentry : readAll (b.pending ++ "\n" ++ String.ofList line).toList ≠ .error .incomplete := by
    rw [hjoined]
    exact readAll_ne_incomplete hbalanced
  refine ⟨hread, String.ofList line, by simpa using hnewline, hentry, ?_⟩
  intro depth s s' result b'
  apply isMultiline_of_handleLine
  rwa [Buffer.withLine_of_nonempty (Buffer.ne_empty_of_incomplete hread)]

/-- A name that is evaluated, a call that is interrupted inside a comment, and a literal under a
bracket that stops after a backslash. -/
def interruptedTurns : List Turn :=
  [.line "true" (.complete [.ok (.truth true)]), .line "(f ; [" .needMore, .interrupt,
    .line "[x" .needMore, .line "\"a\\" .needMore]

/-- Of these turns the last two are pending, and a single line leads out of them. -/
theorem buffer_after_interruptedTurns :
    Buffer.After Recording .topLevel interruptedTurns ⟨"[x\n\"a\\", 2⟩ ∧
      pendingLines interruptedTurns = ["[x", "\"a\\"] ∧
      ∃ line : String, '\n' ∉ line.toList ∧
        readAll ("[x\n\"a\\" ++ "\n" ++ line).toList ≠ .error .incomplete := by
  have hcomplete : Buffer.handleLine 1 .topLevel {} "true" (Recording.ofText "") =
      some (.complete [.ok (.truth true)], ⟨"", 2⟩, Recording.ofText "") := by
    have hread : readAll (Buffer.withLine {} "true").toList = .ok [.symbol "true"] := by
      with_unfolding_all rfl
    rw [Buffer.handleLine_of_ok 1 .topLevel hread]
    rfl
  have hwaits : ∀ {b : Buffer} {line entry : String}, b.withLine line = entry →
      balance entry.toList = .incomplete →
      b.handleLine 1 .topLevel line (Recording.ofText "") =
        some (.needMore, ⟨entry, b.number⟩, Recording.ofText "") := by
    intro b line entry hentry hbalance
    subst hentry
    exact Buffer.handleLine_of_incomplete 1 .topLevel
      (readAll_of_error (read_eq_incomplete_iff.2 hbalance)) _
  have hafter : Buffer.After Recording .topLevel interruptedTurns ⟨"[x\n\"a\\", 2⟩ :=
    ((((Buffer.After.fresh.line hcomplete).line (hwaits rfl (by decide))).interrupt).line
      (hwaits rfl (by decide))).line (hwaits rfl (by decide))
  have hpending : pendingLines interruptedTurns = ["[x", "\"a\\"] := rfl
  obtain ⟨-, line, hnewline, hread, -⟩ :=
    (buffer_holds_pendingLines hafter).2.2.2 (by rw [hpending]; simp)
  exact ⟨hafter, hpending, line, hnewline, hread⟩

end ArrowLisp.Session
