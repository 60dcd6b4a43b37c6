import ArrowLisp.Text.Ranges

/-!
# Blank characters

The characters with the Unicode property `White_Space`. They end a number, are trimmed from a
typed number, and separate the words of a session command. The reader of programs skips fewer
characters than these.
-/

namespace ArrowLisp.Text

/-- The ranges of the property `White_Space`. -/
def blankRanges : Ranges := [
  (0x9, 0xd), (0x20, 0x20), (0x85, 0x85), (0xa0, 0xa0), (0x1680, 0x1680), (0x2000, 0x200a),
  (0x2028, 0x2029), (0x202f, 0x202f), (0x205f, 0x205f), (0x3000, 0x3000)]

def isBlank (c : Char) : Bool :=
  blankRanges.has c

/-- The text without the blanks at its two ends. -/
def trim (cs : List Char) : List Char :=
  ((cs.dropWhile isBlank).reverse.dropWhile isBlank).reverse

/-- Is there nothing but blanks? -/
def allBlank (cs : List Char) : Bool :=
  cs.all isBlank

theorem length_dropWhile_le {α : Type} (p : α → Bool) (l : List α) :
    (l.dropWhile p).length ≤ l.length :=
  (List.dropWhile_sublist p).length_le

/-- The maximal runs without blanks, in order. -/
def words (cs : List Char) : List (List Char) :=
  match _h : cs.dropWhile isBlank with
  | [] => []
  | c :: rest =>
    (c :: rest.takeWhile (!isBlank ·)) :: words (rest.dropWhile (!isBlank ·))
termination_by cs.length
decreasing_by
  have h1 := length_dropWhile_le isBlank cs
  have h2 := length_dropWhile_le (!isBlank ·) rest
  rw [_h, List.length_cons] at h1
  omega

end ArrowLisp.Text
