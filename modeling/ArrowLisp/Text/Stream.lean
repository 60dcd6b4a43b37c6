import ArrowLisp.Text.Lines

/-!
# Byte streams seen as text

A file or the standard input is a sequence of bytes. It is kept here as a list of pieces: the
characters whose UTF-8 form occurs, and the stray bytes that belong to no character. A newline is
one byte and never part of a longer form, so a stream splits into lines before anybody asks
whether it is text.
-/

namespace ArrowLisp.Text

/-- A character, or a byte that is part of none. -/
inductive Piece where
  | char (c : Char)
  | stray (b : UInt8)
deriving DecidableEq, Repr

abbrev Stream := List Piece

/-- The stream that holds a text. -/
def Stream.ofText (cs : List Char) : Stream :=
  cs.map .char

/-- The bytes of a stream. -/
def Stream.toBytes (s : Stream) : List UInt8 :=
  s.flatMap fun
    | .char c => String.utf8EncodeChar c
    | .stray b => [b]

/-- The text that a stream holds, if every byte belongs to a character. -/
def Stream.text? : Stream → Option (List Char)
  | [] => some []
  | .char c :: rest => (Stream.text? rest).map (c :: ·)
  | .stray _ :: _ => none

/-- The low six bits of a continuation byte. -/
def continuation? (b : UInt8) : Option Nat :=
  if 0x80 ≤ b ∧ b ≤ 0xBF then some (b.toNat - 0x80) else none

/-- The code point of a form, if it is not shorter in another form and is a character. -/
def scalar? (least code : Nat) : Option Char :=
  if h : code.isValidChar then
    if least ≤ code then some (Char.ofNatAux code h) else none
  else none

/-- The character whose form of several bytes starts with `b`, and the number of bytes that
follow. -/
def longForm? (b : UInt8) (rest : List UInt8) : Option (Char × Nat) :=
  let n := b.toNat
  if 0xC0 ≤ n ∧ n < 0xE0 then
    match rest with
    | b1 :: _ => do
      let x1 ← continuation? b1
      let c ← scalar? 0x80 ((n - 0xC0) * 64 + x1)
      return (c, 1)
    | _ => none
  else if 0xE0 ≤ n ∧ n < 0xF0 then
    match rest with
    | b1 :: b2 :: _ => do
      let x1 ← continuation? b1
      let x2 ← continuation? b2
      let c ← scalar? 0x800 ((n - 0xE0) * 4096 + x1 * 64 + x2)
      return (c, 2)
    | _ => none
  else if 0xF0 ≤ n ∧ n < 0xF8 then
    match rest with
    | b1 :: b2 :: b3 :: _ => do
      let x1 ← continuation? b1
      let x2 ← continuation? b2
      let x3 ← continuation? b3
      let c ← scalar? 0x10000 ((n - 0xF0) * 262144 + x1 * 4096 + x2 * 64 + x3)
      return (c, 3)
    | _ => none
  else none

/-- Reads bytes as UTF-8; a byte that starts no character is kept as it is. -/
def Stream.ofBytes : List UInt8 → Stream
  | [] => []
  | b :: rest =>
    if b < 0x80 then .char (Char.ofNat b.toNat) :: Stream.ofBytes rest
    else
      match longForm? b rest with
      | some (c, n) => .char c :: Stream.ofBytes (rest.drop n)
      | none => .stray b :: Stream.ofBytes rest
termination_by bytes => bytes.length
decreasing_by
  all_goals simp only [List.length_cons, List.length_drop]; omega

/-- The pieces up to and with the next newline, and what follows. -/
def Stream.cutLine : Stream → Stream × Stream
  | [] => ([], [])
  | .char '\n' :: rest => ([.char '\n'], rest)
  | p :: rest =>
    let cut := Stream.cutLine rest
    (p :: cut.1, cut.2)

/-- What one attempt to read a line from a stream gives. -/
inductive LineRead where
  /-- The stream was at its end. -/
  | atEnd
  /-- The line has bytes that are not text; it is used up all the same. -/
  | garbled
  | line (cs : List Char)
deriving DecidableEq, Repr

/-- Takes the next line off a stream. -/
def Stream.readLine (s : Stream) : LineRead × Stream :=
  match s with
  | [] => (.atEnd, [])
  | p :: rest =>
    let (line, rest') := Stream.cutLine (p :: rest)
    match Stream.text? line with
    | some cs => (.line (stripLineEnding cs), rest')
    | none => (.garbled, rest')

end ArrowLisp.Text
