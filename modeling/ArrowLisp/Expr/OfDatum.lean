import ArrowLisp.Datum.Reader
import ArrowLisp.Expr

/-!
# From data to expressions

A list is a branch if it starts with `if`, a function if it has three items with an arrow in the
middle, and a call otherwise; the tests are made in this order. Parts are turned into expressions
from left to right, so the first faulty part gives the error.
-/

namespace ArrowLisp

/-- Words that never are names. -/
def reservedNames : List String := ["if", "=", "bind", "=>"]

def isValidName (name : String) : Bool :=
  !reservedNames.contains name

/-- The name itself, unless it is reserved. -/
def validName (name : String) : Except ParseError String :=
  if isValidName name then .ok name else .error (.reservedName name)

/-- Parameter names off a list of data, given those before them. -/
def paramNames (before : List String) : List Datum → Except ParseError (List String)
  | [] => .ok []
  | .symbol name :: rest => do
    let name ← validName name
    if before.contains name then throw (.repeatedParameter name)
    let names ← paramNames (before ++ [name]) rest
    return name :: names
  | d :: _ => .error (.notParameter d)

/-- The parameters that a datum lists. -/
def params : Datum → Except ParseError (List String)
  | .list items => paramNames [] items
  | d => .error (.notParameterList d)

namespace Expr

mutual

/-- The expression that a datum writes. -/
def ofDatum : Datum → Except ParseError Expr
  | .number x => .ok (.number x)
  | .text s => .ok (.text s)
  | .symbol s => do
    let x ← validName s
    return .name x
  | .list [] => .error .emptyList
  | .list (.symbol "if" :: [c, t, e]) => do
    let c ← ofDatum c
    let t ← ofDatum t
    let e ← ofDatum e
    return .branch c t e
  | .list (.symbol "if" :: rest) => .error (.branchParts rest.length)
  | .list [ps, .symbol "=>", body] => do
    let ps ← params ps
    let body ← ofDatum body
    return .function ps body
  | .list (head :: args) => do
    let callee ← ofDatum head
    let args ← ofData args
    return .call callee args

/-- The expressions that several data write. -/
def ofData : List Datum → Except ParseError (List Expr)
  | [] => .ok []
  | d :: rest => do
    let e ← ofDatum d
    let es ← ofData rest
    return e :: es

end

/-- The next expression of a text and what follows it, or `none` at the end of the text. -/
def parse (cs : List Char) : Except ParseError (Option (Expr × List Char)) := do
  match ← read cs with
  | none => return none
  | some (d, rest) => return some (← ofDatum d, rest)

/-- All expressions of a text; every datum is read before the first is looked at. -/
def parseProgram (cs : List Char) : Except ParseError (List Expr) := do
  ofData (← readAll cs)

end Expr

end ArrowLisp
