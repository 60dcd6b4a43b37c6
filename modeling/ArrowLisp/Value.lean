import ArrowLisp.Expr

/-!
# Values and scopes

A value is a number, a text, a truth value, a closure or a built-in operation named by its symbol.
A closure keeps the scope it was made in, and a scope holds values, so the two types are defined
together.

A scope is a chain of frames that never change. Extending a scope puts one frame in front of it. A
frame lists its bindings in the order they were made, and the later of two bindings of one name is
the visible one. The maker of a frame may label it, to tell it later from an equal frame; calls
make frames without a label.
-/

namespace ArrowLisp

mutual

inductive Value where
  | number (x : Float)
  | text (s : String)
  | truth (b : Bool)
  | closure (params : List String) (body : Expr) (scope : Scope)
  /-- A built-in operation, looked up by its name when it is applied. -/
  | primitive (name : String)

inductive Scope where
  | empty
  | frame (label : Option Nat) (bindings : List (String × Value)) (parent : Scope)

end

instance : Inhabited Value := ⟨.truth false⟩

instance : Inhabited Scope := ⟨.empty⟩

namespace Value

/-- The text shown for a value. A string stands between quotes as it is, with nothing escaped. -/
def render : Value → String
  | .number x => Number.plain x
  | .text s => "\"" ++ s ++ "\""
  | .truth b => if b then "true" else "false"
  | .closure .. => "#<procedure>"
  | .primitive name => "#<primop:" ++ name ++ ">"

/-- Several values in square brackets. -/
def renderAll (values : List Value) : String :=
  "[" ++ ", ".intercalate (values.map render) ++ "]"

/-- A text that names the kind of a value and quotes its strings. The scope of a closure is left
out. -/
def describe : Value → String
  | .number x => "Number(" ++ Number.annotated x ++ ")"
  | .text s => "String(" ++ Text.quoted s ++ ")"
  | .truth b => "Bool(" ++ (if b then "true" else "false") ++ ")"
  | .closure params body _ =>
    "Closure \x7b params: [" ++ ", ".intercalate (params.map Text.quoted) ++ "], body: " ++
      body.render ++ ", .. \x7d"
  | .primitive name => "Primitive(" ++ Text.quoted name ++ ")"

def number? : Value → Option Float
  | .number x => some x
  | _ => none

/-- Can the value stand in the place of a function? -/
def isCallable : Value → Bool
  | .closure .. => true
  | .primitive _ => true
  | _ => false

/-- The comparison programs can make: data of one kind by content, anything else unequal. -/
def sameData : Value → Value → Bool
  | .number x, .number y => x == y
  | .text s, .text t => s == t
  | .truth a, .truth b => a == b
  | _, _ => false

/-- Equality of two values a host holds. Data agree by content and built-in operations by name;
closures agree only if `identical`, that is, if the host holds one closure twice. -/
def agrees (identical : Bool) : Value → Value → Bool
  | .closure .., .closure .. => identical
  | .primitive a, .primitive b => a == b
  | v, w => v.sameData w

/-- For each value of a row, which values of the row it agrees with. Two places of the row hold the
same closure only if they are the same place. -/
def agreementTable (values : List Value) : List (List Bool) :=
  values.mapIdx fun i v => values.mapIdx fun j w => agrees (i == j) v w

end Value

end ArrowLisp
