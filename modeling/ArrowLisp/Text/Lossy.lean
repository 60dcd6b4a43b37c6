import ArrowLisp.Text.Stream

/-!
# Showing what is not text

A stream with stray bytes can still be shown: every broken form is shown as one replacement
character. A broken form is a byte that starts a character together with the bytes after it that
could have gone on with that character, or a single byte that starts none.
-/

namespace ArrowLisp.Text

/-- The character that stands for bytes that are no text. -/
def replacement : Char := '�'

/-- Can `next` be the second byte of a form of three or four bytes that starts with `lead`? -/
def secondByteFits (lead next : UInt8) : Bool :=
  (continuation? next).isSome && decide (0xE0 ≤ lead ∧ lead ≤ 0xF4) &&
    decide ((lead = 0xE0 → 0xA0 ≤ next) ∧ (lead = 0xED → next ≤ 0x9F) ∧
      (lead = 0xF0 → 0x90 ≤ next) ∧ (lead = 0xF4 → next ≤ 0x8F))

/-- How many of the following pieces belong to the broken form that starts with a stray byte. -/
def brokenTail (lead : UInt8) : Stream → Nat
  | .stray b1 :: .stray b2 :: _ =>
    if !secondByteFits lead b1 then 0
    else if 0xF0 ≤ lead ∧ (continuation? b2).isSome then 2
    else 1
  | .stray b1 :: _ => if secondByteFits lead b1 then 1 else 0
  | _ => 0

/-- The text of a stream, with a replacement for every broken form. -/
def Stream.lossyText : Stream → List Char
  | [] => []
  | .char c :: rest => c :: Stream.lossyText rest
  | .stray b :: rest => replacement :: Stream.lossyText (rest.drop (brokenTail b rest))
termination_by s => s.length
decreasing_by
  all_goals simp only [List.length_cons, List.length_drop]; omega

end ArrowLisp.Text
