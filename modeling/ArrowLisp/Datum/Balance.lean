/-!
# Bracket balance

A scan over a text that looks at brackets only, outside string literals and comments. It says
whether the text could be a sequence of whole data as far as brackets and quotes go. A closing
bracket that fits no open one settles the verdict at once; a bracket or a literal still open at
the end makes the text incomplete.
-/

namespace ArrowLisp

/-- The closing bracket that belongs to an opening one. -/
def closerOf : Char → Option Char
  | '(' => some ')'
  | '[' => some ']'
  | '{' => some '}'
  | _ => none

def isCloser (c : Char) : Bool :=
  c = ')' || c = ']' || c = '}'

/-- Where the scan stands. -/
inductive Region where
  | code
  | comment
  /-- Inside a string literal; `escaped` right after a backslash. -/
  | literal (escaped : Bool)
deriving DecidableEq, Repr

/-- What the scan finds. -/
inductive Balance where
  | balanced
  | incomplete
  /-- A closing bracket with nothing open. -/
  | stray
  | mismatched (expected found : Char)
deriving DecidableEq, Repr

/-- Scans a text from a region, with the closing brackets still owed, innermost first. -/
def scanBalance : Region → List Char → List Char → Balance
  | .code, [], [] => .balanced
  | .code, _ :: _, [] => .incomplete
  | .comment, [], [] => .balanced
  | .comment, _ :: _, [] => .incomplete
  | .literal _, _, [] => .incomplete
  | .comment, owed, c :: cs => scanBalance (if c = '\n' then .code else .comment) owed cs
  | .literal true, owed, _ :: cs => scanBalance (.literal false) owed cs
  | .literal false, owed, c :: cs =>
    scanBalance (if c = '\\' then .literal true else if c = '"' then .code else .literal false)
      owed cs
  | .code, owed, c :: cs =>
    if c = '"' then scanBalance (.literal false) owed cs
    else if c = ';' then scanBalance .comment owed cs
    else
      match closerOf c with
      | some closer => scanBalance .code (closer :: owed) cs
      | none =>
        if isCloser c then
          match owed with
          | [] => .stray
          | expected :: owed' =>
            if expected = c then scanBalance .code owed' cs else .mismatched expected c
        else scanBalance .code owed cs

/-- The verdict on a whole text. -/
def balance (cs : List Char) : Balance :=
  scanBalance .code [] cs

end ArrowLisp
