/-!
# Lines of text

A line ends at a newline, and one carriage return directly before that newline belongs to the
ending. Text after the last newline is a line only if there is some.
-/

namespace ArrowLisp.Text

/-- Removes a final newline together with one carriage return before it. -/
def stripLineEnding (line : List Char) : List Char :=
  match line.reverse with
  | '\n' :: '\r' :: rest => rest.reverse
  | '\n' :: rest => rest.reverse
  | _ => line

/-- Appends a character to the line under construction, which is the first of the list. -/
def consLine (c : Char) : List (List Char) → List (List Char)
  | [] => [[c]]
  | line :: rest => (c :: line) :: rest

/-- The lines of a text without their endings. -/
def lines : List Char → List (List Char)
  | [] => []
  | '\r' :: '\n' :: rest => [] :: lines rest
  | '\n' :: rest => [] :: lines rest
  | c :: rest => consLine c (lines rest)

end ArrowLisp.Text
