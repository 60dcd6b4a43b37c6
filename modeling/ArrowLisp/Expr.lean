import ArrowLisp.Number.Layout
import ArrowLisp.Text.Quoted

/-!
# Expressions

The programs of the language. A function lists its parameters and has one expression as its body;
a call evaluates its callee and then its arguments.
-/

namespace ArrowLisp

inductive Expr where
  | number (x : Float)
  | text (s : String)
  | name (x : String)
  | branch (condition whenTrue whenFalse : Expr)
  | function (params : List String) (body : Expr)
  | call (callee : Expr) (args : List Expr)
deriving Inhabited

namespace Expr

mutual

/-- The printed form of an expression. -/
def render : Expr → String
  | .number x => Number.plain x
  | .text s => Text.quoted s
  | .name x => x
  | .branch c t e => "(if " ++ render c ++ " " ++ render t ++ " " ++ render e ++ ")"
  | .function params body => "((" ++ " ".intercalate params ++ ") => " ++ render body ++ ")"
  | .call callee args => "(" ++ render callee ++ renderArgs args ++ ")"

/-- Arguments, each after a space. -/
def renderArgs : List Expr → String
  | [] => ""
  | e :: rest => " " ++ render e ++ renderArgs rest

end

mutual

/-- Equality of expressions part by part, with numbers compared as numbers: the undefined number
differs from itself, and the two zeros agree. -/
def agrees : Expr → Expr → Bool
  | .number x, .number y => x == y
  | .text s, .text t => s == t
  | .name x, .name y => x == y
  | .branch c t e, .branch c' t' e' => agrees c c' && agrees t t' && agrees e e'
  | .function ps b, .function ps' b' => ps == ps' && agrees b b'
  | .call f args, .call f' args' => agrees f f' && agreesAll args args'
  | _, _ => false

def agreesAll : List Expr → List Expr → Bool
  | [], [] => true
  | e :: es, e' :: es' => agrees e e' && agreesAll es es'
  | _, _ => false

end

end Expr

end ArrowLisp
