import ArrowLisp.Datum

/-!
# Why a text is not a program

The reader's refusals first, then those of the step from data to expressions. Each is kept as its
cause; the wording is given once, by `message`.
-/

namespace ArrowLisp

inductive ParseError where
  /-- More text could complete it. -/
  | incomplete
  /-- A closing bracket with nothing open. -/
  | strayCloser
  | wrongCloser (expected found : Char)
  /-- No datum starts here; the start of the text is kept. -/
  | unreadable (start : String)
  | emptyList
  /-- A branch with this many parts in place of three. -/
  | branchParts (count : Nat)
  | reservedName (name : String)
  | notParameterList (found : Datum)
  | notParameter (found : Datum)
  | repeatedParameter (name : String)
deriving Inhabited

namespace ParseError

def message : ParseError → String
  | .incomplete => "incomplete input"
  | .strayCloser => "unexpected closing bracket"
  | .wrongCloser expected found =>
    "invalid syntax: expected `" ++ expected.toString ++ "` but found `" ++ found.toString ++ "`"
  | .unreadable start => "invalid syntax: unreadable input at: " ++ start
  | .emptyList => "invalid syntax: empty list"
  | .branchParts count =>
    "invalid if expression: expected 3 sub-expressions, got " ++ toString count
  | .reservedName name => "invalid identifier: " ++ name
  | .notParameterList found => "invalid lambda: expected a parameter list, got: " ++ found.render
  | .notParameter found => "invalid lambda: parameters must be identifiers, got: " ++ found.render
  | .repeatedParameter name => "duplicate parameter: " ++ name

end ParseError

end ArrowLisp
