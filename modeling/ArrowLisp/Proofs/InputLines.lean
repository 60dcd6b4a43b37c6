import ArrowLisp.Session.World
import Mathlib.Tactic.SplitIfs

/-!
# Lines off a stream and lines of a text

A process takes its lines off the bytes of the standard input, each one up to the next newline, and
takes the line ending off what it got. A recording has the lines of a text from the start, split off
all of it. The bytes of a text are decoded to that text, and cutting a text at its first newline
splits off its first line, so both give the same lines and come to the end of the input together.
-/

namespace ArrowLisp

open Session (World)

namespace Text

/-! ## The bytes of a text -/

theorem continuation?_ofNat (n : Nat) :
    continuation? (UInt8.ofNat (n % 64 + 128)) = some (n % 64) := by
  have hbyte := UInt8.toNat_ofNat_of_lt' (show n % 64 + 128 < 256 by omega)
  have hrange : 0x80 ≤ UInt8.ofNat (n % 64 + 128) ∧ UInt8.ofNat (n % 64 + 128) ≤ 0xBF := by
    rw [UInt8.le_iff_toNat_le, UInt8.le_iff_toNat_le, hbyte]
    show 128 ≤ _ ∧ _ ≤ 191
    omega
  rw [continuation?, if_pos hrange, hbyte]
  simp

theorem scalar?_toNat {c : Char} {least code : Nat} (hleast : least ≤ c.toNat)
    (hcode : code = c.toNat) : scalar? least code = some c := by
  subst hcode
  have hvalid : c.toNat.isValidChar := c.valid
  rw [scalar?, dif_pos hvalid, if_pos hleast]
  rfl

theorem ofBytes_of_longForm? {b : UInt8} {rest : List UInt8} {c : Char} {n : Nat}
    (hb : 0x80 ≤ b.toNat) (h : longForm? b rest = some (c, n)) :
    Stream.ofBytes (b :: rest) = .char c :: Stream.ofBytes (rest.drop n) := by
  have hlong : ¬b < 0x80 := by
    rw [UInt8.lt_iff_toNat_lt]
    show ¬b.toNat < 128
    omega
  rw [Stream.ofBytes, if_neg hlong, h]

/-- A character is decoded from its bytes, whatever follows them. -/
theorem ofBytes_utf8EncodeChar (c : Char) (bytes : List UInt8) :
    Stream.ofBytes (String.utf8EncodeChar c ++ bytes) = .char c :: Stream.ofBytes bytes := by
  have hmax : c.toNat < 0x110000 := by
    rcases c.valid with h | ⟨-, h⟩
    · have : c.toNat < 0xD800 := h
      omega
    · exact h
  simp only [String.utf8EncodeChar, Char.toNat_val]
  split_ifs with h1 h2 h3 <;> simp only [List.cons_append, List.nil_append]
  · have hbyte := UInt8.toNat_ofNat_of_lt' (show c.toNat < 256 by omega)
    have hshort : UInt8.ofNat c.toNat < 0x80 := by
      rw [UInt8.lt_iff_toNat_lt, hbyte]
      show _ < 128
      omega
    rw [Stream.ofBytes, if_pos hshort, hbyte, Char.ofNat_toNat]
  · have hbyte := UInt8.toNat_ofNat_of_lt' (show c.toNat / 64 % 32 + 192 < 256 by omega)
    refine ofBytes_of_longForm? (n := 1) (by omega) ?_
    rw [longForm?, hbyte, if_pos (by omega)]
    refine Option.bind_eq_some_iff.2 ⟨_, continuation?_ofNat _, ?_⟩
    exact Option.bind_eq_some_iff.2 ⟨c, scalar?_toNat (by omega) (by omega), rfl⟩
  · have hbyte := UInt8.toNat_ofNat_of_lt' (show c.toNat / 4096 % 16 + 224 < 256 by omega)
    refine ofBytes_of_longForm? (n := 2) (by omega) ?_
    rw [longForm?, hbyte, if_neg (by omega), if_pos (by omega)]
    refine Option.bind_eq_some_iff.2 ⟨_, continuation?_ofNat _, ?_⟩
    refine Option.bind_eq_some_iff.2 ⟨_, continuation?_ofNat _, ?_⟩
    exact Option.bind_eq_some_iff.2 ⟨c, scalar?_toNat (by omega) (by omega), rfl⟩
  · have hbyte := UInt8.toNat_ofNat_of_lt' (show c.toNat / 262144 % 8 + 240 < 256 by omega)
    refine ofBytes_of_longForm? (n := 3) (by omega) ?_
    rw [longForm?, hbyte, if_neg (by omega), if_neg (by omega), if_pos (by omega)]
    refine Option.bind_eq_some_iff.2 ⟨_, continuation?_ofNat _, ?_⟩
    refine Option.bind_eq_some_iff.2 ⟨_, continuation?_ofNat _, ?_⟩
    refine Option.bind_eq_some_iff.2 ⟨_, continuation?_ofNat _, ?_⟩
    exact Option.bind_eq_some_iff.2 ⟨c, scalar?_toNat (by omega) (by omega), rfl⟩

theorem ofBytes_flatMap (cs : List Char) :
    Stream.ofBytes (cs.flatMap String.utf8EncodeChar) = .ofText cs := by
  induction cs with
  | nil => rw [List.flatMap_nil, Stream.ofBytes]; rfl
  | cons c cs ih =>
      rw [List.flatMap_cons, ofBytes_utf8EncodeChar, ih]
      rfl

/-- The bytes of a text hold that text. -/
theorem ofBytes_toUTF8 (text : String) :
    Stream.ofBytes text.toUTF8.data.toList = .ofText text.toList := by
  have hbytes : text.toUTF8.data.toList = text.toList.flatMap String.utf8EncodeChar := by
    rw [String.toUTF8_eq_toByteArray, ← String.ofList_toList (s := text), String.toByteArray_ofList,
      String.toList_ofList]
    exact List.toList_data_toByteArray
  rw [hbytes, ofBytes_flatMap]

/-! ## The lines of a text -/

/-- The lines of a text: a newline ends a line, together with a carriage return directly before it,
and text behind the last newline is one more line. -/
inductive LinesOf : List Char → List (List Char) → Prop
  | nil : LinesOf [] []
  | unended {line : List Char} : '\n' ∉ line → line ≠ [] → LinesOf line [line]
  | newline {line rest : List Char} {lines : List (List Char)} :
      '\n' ∉ line → line.getLast? ≠ some '\r' → LinesOf rest lines →
      LinesOf (line ++ '\n' :: rest) (line :: lines)
  | returnNewline {line rest : List Char} {lines : List (List Char)} :
      '\n' ∉ line → LinesOf rest lines →
      LinesOf (line ++ '\r' :: '\n' :: rest) (line :: lines)

theorem linesOf_first {line rest : List Char} {lines : List (List Char)} (h : '\n' ∉ line)
    (hrest : LinesOf rest lines) : ∃ first, LinesOf (line ++ '\n' :: rest) (first :: lines) := by
  by_cases hreturn : line.getLast? = some '\r'
  · obtain ⟨front, rfl⟩ := List.getLast?_eq_some_iff.1 hreturn
    refine ⟨front, ?_⟩
    rw [List.append_assoc]
    exact .returnNewline (fun hmem => h (List.mem_append_left _ hmem)) hrest
  · exact ⟨line, .newline h hreturn hrest⟩

/-- Every text has lines: those before and after its first newline, if there is one. -/
theorem exists_linesOf (cs : List Char) : ∃ lines, LinesOf cs lines := by
  induction hn : cs.length using Nat.strongRecOn generalizing cs with
  | ind n ih =>
      by_cases hmem : '\n' ∈ cs
      · obtain ⟨line, rest, rfl, hline⟩ := List.eq_append_cons_of_mem hmem
        have hshorter : rest.length < n := by
          rw [← hn, List.length_append, List.length_cons]
          omega
        obtain ⟨lines, hlines⟩ := ih rest.length hshorter rest rfl
        obtain ⟨first, hfirst⟩ := linesOf_first hline hlines
        exact ⟨first :: lines, hfirst⟩
      · cases cs with
        | nil => exact ⟨[], .nil⟩
        | cons c cs => exact ⟨[c :: cs], .unended hmem (List.cons_ne_nil c cs)⟩

/-! ## Splitting a whole text -/

theorem lines_cons {c : Char} {cs : List Char} (hc : c ≠ '\n')
    (hcs : c = '\r' → cs.head? ≠ some '\n') : lines (c :: cs) = consLine c (lines cs) := by
  rw [lines]
  · intro rest hreturn hrest
    exact hcs hreturn (by rw [hrest]; rfl)
  · exact hc

/-- Text before a text goes into its first line, unless the two together make a line ending. -/
theorem lines_append {line tail first : List Char} {rest : List (List Char)} (h : '\n' ∉ line)
    (htail : lines tail = first :: rest)
    (hjoin : line.getLast? = some '\r' → tail.head? ≠ some '\n') :
    lines (line ++ tail) = (line ++ first) :: rest := by
  induction line with
  | nil => exact htail
  | cons c line ih =>
      have hc : c ≠ '\n' := fun hc => h (by simp [hc])
      have hline : '\n' ∉ line := fun hmem => h (List.mem_cons_of_mem c hmem)
      cases line with
      | nil =>
          have hhead : c = '\r' → tail.head? ≠ some '\n' := by
            intro hreturn
            exact hjoin (by rw [hreturn]; rfl)
          rw [List.singleton_append, lines_cons hc hhead, htail]
          rfl
      | cons d line =>
          have hd : c = '\r' → ((d :: line) ++ tail).head? ≠ some '\n' := by
            intro _ hhead
            exact hline (by rw [← Option.some.inj hhead]; simp)
          rw [List.cons_append, lines_cons hc hd, ih hline (by simpa using hjoin)]
          rfl

theorem LinesOf.lines_eq {cs : List Char} {ls : List (List Char)} (h : LinesOf cs ls) :
    lines cs = ls := by
  induction h with
  | nil => rfl
  | @unended line hline hne =>
      have hsplit := List.dropLast_concat_getLast hne
      have hlast : line.getLast hne ≠ '\n' := fun h => hline (h ▸ List.getLast_mem hne)
      have hone : lines [line.getLast hne] = [[line.getLast hne]] := by
        rw [lines_cons hlast (by simp)]
        rfl
      have hfront : '\n' ∉ line.dropLast := fun h => hline ((List.dropLast_sublist line).subset h)
      have hjoined := lines_append hfront hone (by simpa using fun _ => hlast)
      rwa [hsplit] at hjoined
  | @newline line rest ls hline hreturn _ ih =>
      have hrest : lines ('\n' :: rest) = [] :: ls := by rw [lines, ih]
      rw [lines_append hline hrest (fun h => absurd h hreturn), List.append_nil]
  | @returnNewline line rest ls hline _ ih =>
      have hrest : lines ('\r' :: '\n' :: rest) = [] :: ls := by rw [lines, ih]
      rw [lines_append hline hrest (by simp), List.append_nil]

/-! ## Taking lines off a stream -/

theorem text?_ofText (cs : List Char) : Stream.text? (.ofText cs) = some cs := by
  induction cs with
  | nil => rfl
  | cons c cs ih =>
      show (Stream.text? (.ofText cs)).map (c :: ·) = some (c :: cs)
      rw [ih]
      rfl

theorem cutLine_cons {c : Char} (hc : c ≠ '\n') (cs : List Char) :
    Stream.cutLine (.ofText (c :: cs)) =
      (.char c :: (Stream.cutLine (.ofText cs)).1, (Stream.cutLine (.ofText cs)).2) := by
  show Stream.cutLine (.char c :: Stream.ofText cs) = _
  rw [Stream.cutLine]
  intro hnewline
  exact hc (Piece.char.inj hnewline)

/-- A stream without a newline is cut behind its end. -/
theorem cutLine_unended {line : List Char} (h : '\n' ∉ line) :
    Stream.cutLine (.ofText line) = (.ofText line, []) := by
  induction line with
  | nil => rfl
  | cons c line ih =>
      have hc : c ≠ '\n' := fun hc => h (by simp [hc])
      rw [cutLine_cons hc, ih fun hmem => h (List.mem_cons_of_mem c hmem)]
      rfl

/-- A stream is cut behind its first newline. -/
theorem cutLine_newline {line : List Char} (h : '\n' ∉ line) (rest : List Char) :
    Stream.cutLine (.ofText (line ++ '\n' :: rest)) =
      (.ofText (line ++ ['\n']), .ofText rest) := by
  induction line with
  | nil => rfl
  | cons c line ih =>
      have hc : c ≠ '\n' := fun hc => h (by simp [hc])
      rw [List.cons_append, cutLine_cons hc, ih fun hmem => h (List.mem_cons_of_mem c hmem)]
      rfl

theorem readLine_of_cutLine {cs line : List Char} {rest : Stream} (hne : cs ≠ [])
    (h : Stream.cutLine (.ofText cs) = (.ofText line, rest)) :
    Stream.readLine (.ofText cs) = (.line (stripLineEnding line), rest) := by
  obtain ⟨c, cs, rfl⟩ := List.exists_cons_of_ne_nil hne
  have hcut : Stream.cutLine (.char c :: Stream.ofText cs) = (.ofText line, rest) := h
  show Stream.readLine (.char c :: Stream.ofText cs) = _
  simp only [Stream.readLine, hcut, text?_ofText]

theorem stripLineEnding_of_not_mem {line : List Char} (h : '\n' ∉ line) :
    stripLineEnding line = line := by
  have hreverse : '\n' ∉ line.reverse := by simpa using h
  unfold stripLineEnding
  split
  · next hr => exact absurd (by rw [hr]; simp) hreverse
  · next hr => exact absurd (by rw [hr]; simp) hreverse
  · rfl

theorem stripLineEnding_newline {line : List Char} (h : line.getLast? ≠ some '\r') :
    stripLineEnding (line ++ ['\n']) = line := by
  have hreverse : (line ++ ['\n']).reverse = '\n' :: line.reverse := by simp
  unfold stripLineEnding
  rw [hreverse]
  split
  · next hr =>
    refine absurd ?_ h
    rw [List.getLast?_eq_head?_reverse, (List.cons.inj hr).2]
    rfl
  · next hr => rw [← (List.cons.inj hr).2, List.reverse_reverse]
  · next hr => exact absurd rfl (hr _)

theorem stripLineEnding_returnNewline (line : List Char) :
    stripLineEnding (line ++ ['\r', '\n']) = line := by
  simp [stripLineEnding]

/-- One reading takes the first line and leaves a text with the other lines. -/
theorem LinesOf.readLine {cs first : List Char} {others : List (List Char)}
    (h : LinesOf cs (first :: others)) :
    ∃ rest, Stream.readLine (.ofText cs) = (.line first, .ofText rest) ∧ LinesOf rest others := by
  cases h with
  | unended hline hne =>
      have hread := readLine_of_cutLine hne (cutLine_unended hline)
      rw [stripLineEnding_of_not_mem hline] at hread
      exact ⟨[], hread, .nil⟩
  | @newline _ rest _ hline hreturn hrest =>
      have hread := readLine_of_cutLine (by simp) (cutLine_newline hline rest)
      rw [stripLineEnding_newline hreturn] at hread
      exact ⟨rest, hread, hrest⟩
  | @returnNewline _ rest _ hline hrest =>
      have hmem : '\n' ∉ first ++ ['\r'] := by simpa using hline
      have hread := readLine_of_cutLine (by simp) (cutLine_newline hmem rest)
      rw [List.append_assoc, List.append_assoc] at hread
      rw [List.singleton_append, List.singleton_append, stripLineEnding_returnNewline] at hread
      exact ⟨rest, hread, hrest⟩

end Text

/-! ## Asking for lines -/

section Attempts

variable {σ : Type} [Console σ]

/-- The answers to `n` attempts to take a line, one after another. -/
def attempts : Nat → σ → List (Except ConsoleFailure String)
  | 0, _ => []
  | n + 1, s => (Console.takeLine s).1 :: attempts n (Console.takeLine s).2

theorem attempts_of_failed {s : σ} {failure : ConsoleFailure}
    (h : Console.takeLine s = (.error failure, s)) (n : Nat) :
    attempts n s = List.replicate n (.error failure) := by
  induction n with
  | zero => rfl
  | succ n ih => rw [attempts, h, ih, List.replicate_succ]

theorem attempts_of_taken {s s' : σ} {line : String} (h : Console.takeLine s = (.ok line, s'))
    (n : Nat) : attempts (n + 1) s = .ok line :: attempts n s' := by
  rw [attempts, h]

end Attempts

/-- The lines in order, and then failures for want of a line. -/
def answers (lines : List (List Char)) (n : Nat) : List (Except ConsoleFailure String) :=
  lines.map (fun line => .ok (String.ofList line)) ++ List.replicate n (.error .endOfInput)

theorem takeLine_world {w : World} {cs line : List Char} {rest : Text.Stream}
    (hw : w.stdin = .ofText cs) (h : Text.Stream.readLine (.ofText cs) = (.line line, rest)) :
    Console.takeLine w = (.ok (String.ofList line), { w with stdin := rest }) := by
  show World.takeLine w = _
  simp only [World.takeLine, World.readLine, hw, h]

theorem takeLine_world_end {w : World} (hw : w.stdin = []) :
    Console.takeLine w = (.error .endOfInput, w) := by
  show World.takeLine w = _
  simp only [World.takeLine, World.readLine, hw, Text.Stream.readLine]
  rw [← hw]

/-- A process takes the lines of the text that its standard input holds. -/
theorem attempts_world {cs : List Char} {lines : List (List Char)} (h : Text.LinesOf cs lines)
    (n : Nat) {w : World} (hw : w.stdin = .ofText cs) :
    attempts (lines.length + n) w = answers lines n := by
  induction lines generalizing cs w with
  | nil =>
      cases h
      rw [List.length_nil, Nat.zero_add]
      exact attempts_of_failed (takeLine_world_end hw) n
  | cons first others ih =>
      obtain ⟨rest, hread, hrest⟩ := h.readLine
      rw [List.length_cons, Nat.add_right_comm, attempts_of_taken (takeLine_world hw hread),
        ih hrest rfl]
      rfl

theorem attempts_recording (lines : List (List Char)) (n : Nat) (output : String) :
    attempts (lines.length + n) ({ input := lines.map String.ofList, output } : Recording) =
      answers lines n := by
  induction lines with
  | nil =>
      rw [List.length_nil, Nat.zero_add]
      exact attempts_of_failed rfl n
  | cons line lines ih =>
      rw [List.length_cons, Nat.add_right_comm]
      exact (attempts_of_taken rfl _).trans (congrArg _ ih)

/-- The standard input of a process gives the lines of the text that its bytes hold, a recording of
that text gives the same lines, and on both there is then nothing but the end of the input. -/
theorem attempts_stdin_recording (text : String) (w : World) :
    ∃ lines, Text.LinesOf text.toList lines ∧ ∀ n,
      attempts (lines.length + n) { w with stdin := .ofBytes text.toUTF8.data.toList } =
        answers lines n ∧
      attempts (lines.length + n) (Recording.ofText text) = answers lines n := by
  obtain ⟨lines, hlines⟩ := Text.exists_linesOf text.toList
  refine ⟨lines, hlines, fun n => ⟨?_, ?_⟩⟩
  · exact attempts_world hlines n (Text.ofBytes_toUTF8 text)
  · rw [Recording.ofText, hlines.lines_eq]
    exact attempts_recording lines n ""

end ArrowLisp
