/-!
# Measuring text in bytes

Texts are lists of characters, but some rules count the bytes of their UTF-8 form: excerpts in
messages, the size of what is left to read, and cursor positions. An offset is good when it stands
between two characters.
-/

namespace ArrowLisp.Text

/-- The number of bytes of a text in UTF-8. -/
def byteLength (cs : List Char) : Nat :=
  cs.foldl (fun n c => n + c.utf8Size) 0

/-- Cuts a text after exactly `n` bytes; there is no such cut past the end or inside a
character. -/
def splitAtByte : Nat → List Char → Option (List Char × List Char)
  | 0, cs => some ([], cs)
  | _ + 1, [] => none
  | n + 1, c :: cs =>
    if c.utf8Size ≤ n + 1 then
      (splitAtByte (n + 1 - c.utf8Size) cs).map fun p => (c :: p.1, p.2)
    else none
termination_by _ cs => cs.length

/-- The offset of the last character of a class. -/
def lastOffset? (p : Char → Bool) : List Char → Option Nat
  | [] => none
  | c :: cs =>
    match lastOffset? p cs with
    | some n => some (c.utf8Size + n)
    | none => if p c then some 0 else none

/-- The first `n` bytes when they end between two characters, and otherwise the whole text. -/
def excerpt (n : Nat) (cs : List Char) : List Char :=
  match splitAtByte n cs with
  | some (head, _) => head
  | none => cs

end ArrowLisp.Text
