import ArrowLisp.Value

/-!
# Looking up names

Lookup goes from the innermost frame outwards and, within a frame, from the last binding back. The
top level is one frame with the built-in operations and the two truth values.
-/

namespace ArrowLisp

/-- The built-in operations, in the order they are listed to users. -/
def primitiveNames : List String :=
  ["+", "-", "*", "/", "<=", "error", "equal?", "println", "read-num", "read-str", "++", "seq"]

/-- The value of the last binding of a name in a frame. -/
def lastBinding (name : String) (bindings : List (String × Value)) : Option Value :=
  (bindings.reverse.find? (·.1 == name)).map (·.2)

namespace Scope

/-- The scope every program starts in. -/
def topLevel : Scope :=
  .frame none
    (primitiveNames.map (fun name => (name, Value.primitive name)) ++
      [("true", .truth true), ("false", .truth false)])
    .empty

def lookup (name : String) : Scope → Option Value
  | .empty => none
  | .frame _ bindings parent =>
    match lastBinding name bindings with
    | some v => some v
    | none => parent.lookup name

/-- Binds parameters to arguments, one by one, in a new frame. -/
def extend (scope : Scope) (params : List String) (args : List Value) : Scope :=
  .frame none (params.zip args) scope

/-- A new frame with one binding. -/
def bind (scope : Scope) (name : String) (value : Value) : Scope :=
  .frame none [(name, value)] scope

/-- The number of frames. -/
def depth : Scope → Nat
  | .empty => 0
  | .frame _ _ parent => parent.depth + 1

/-- Adds the names of a list that are not yet present. -/
def addNames (seen : List String) (names : List String) : List String :=
  names.foldl (fun acc name => if acc.contains name then acc else acc ++ [name]) seen

/-- The visible names after those already `seen`, the newest binding first. -/
def namesAfter (seen : List String) : Scope → List String
  | .empty => seen
  | .frame _ bindings parent => parent.namesAfter (addNames seen (bindings.reverse.map (·.1)))

/-- Every visible name once, the newest binding first. -/
def names (scope : Scope) : List String :=
  scope.namesAfter []

/-- Labels the innermost frame. -/
def label (id : Nat) : Scope → Scope
  | .empty => .empty
  | .frame _ bindings parent => .frame (some id) bindings parent

/-- Are the innermost frames one and the same, as far as labels tell? Scopes without frames are
the same; frames without a label are not recognised. -/
def sameFrame : Scope → Scope → Bool
  | .empty, .empty => true
  | .frame (some a) _ _, .frame (some b) _ _ => a == b
  | _, _ => false

/-- A one-line account of a scope. -/
def describe (scope : Scope) : String :=
  "Environment \x7b depth: " ++ toString scope.depth ++ ", names: [" ++
    ", ".intercalate (scope.names.map Text.quoted) ++ "] \x7d"

end Scope

end ArrowLisp
