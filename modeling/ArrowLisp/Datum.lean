import ArrowLisp.Number.Layout
import ArrowLisp.Text.Quoted

/-!
# Data

What the reader makes of a text before anybody asks whether it is a program: numbers, string
literals, symbols and lists. The kind of bracket around a list is not kept.
-/

namespace ArrowLisp

inductive Datum where
  | number (x : Float)
  | text (s : String)
  | symbol (name : String)
  | list (items : List Datum)
deriving Inhabited

namespace Datum

mutual

/-- The printed form of a datum. -/
def render : Datum → String
  | .number x => Number.plain x
  | .text s => Text.quoted s
  | .symbol name => name
  | .list items => "(" ++ renderItems items ++ ")"

/-- Data with a space between any two. -/
def renderItems : List Datum → String
  | [] => ""
  | [d] => render d
  | d :: rest => render d ++ " " ++ renderItems rest

end

end Datum

end ArrowLisp
