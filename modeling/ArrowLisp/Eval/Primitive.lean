import ArrowLisp.Eval.Action
import ArrowLisp.Number.Numeral
import ArrowLisp.Text.Blank

/-!
# Built-in operations

The number of arguments is checked before their kinds. An operation that is none of the dedicated
ones is taken for arithmetic on two numbers, and only then is its name looked at.
-/

namespace ArrowLisp

/-- The text of the values joined by `++`; a closure or a built-in operation cannot be joined, and
the leftmost of these is the one complained about. -/
def joinText : List Value → Except Cause String
  | [] => .ok ""
  | v :: rest => do
    let head ←
      match v with
      | .number x => .ok (Number.fixed x)
      | .text s => .ok s
      | .truth b => .ok (if b then "true" else "false")
      | other => .error (Cause.notJoinable other)
    let tail ← joinText rest
    return head ++ tail

/-- Arithmetic by name, on exactly two numbers. -/
def arithmetic (name : String) : List Value → Except Cause Value
  | [.number x, .number y] =>
    if name = "+" then .ok (.number (x + y))
    else if name = "-" then .ok (.number (x - y))
    else if name = "*" then .ok (.number (x * y))
    else if name = "/" then
      if y == 0 then .error (.divisionByZero [.number x, .number y]) else .ok (.number (x / y))
    else if name = "<=" then .ok (.truth (x <= y))
    else .error (.unknownOperation name [.number x, .number y])
  | [v, w] => .error (.wrongOperands name .twoNumbers [v, w])
  | args => .error (.wrongCount (.exactly 2) args)

/-- What a program sees before it types a line. -/
def inputPrompt : String := "> "

namespace Primitive

variable {σ : Type} [Console σ]

/-- Prompts for a line and takes it. -/
def promptLine : Action σ String := do
  Action.print inputPrompt
  Action.takeLine

/-- An operation without effects. -/
def ofResult (result : Except Cause Value) : Action σ Value :=
  match result with
  | .ok v => pure v
  | .error cause => Action.fail cause

def println : List Value → Action σ Value
  | [.text s] => do
    Action.printLine s
    return .truth true
  | [v] => Action.fail (.wrongOperands "println" .aString [v])
  | args => Action.fail (.wrongCount (.exactly 1) args)

def readNumber : List Value → Action σ Value
  | [] => do
    let line ← promptLine
    match Number.parse (Text.trim line.toList) with
    | some x => return .number x
    | none => Action.fail (.notNumber line)
  | args => Action.fail (.wrongCount (.exactly 0) args)

def readText : List Value → Action σ Value
  | [] => do
    let line ← promptLine
    return .text line
  | args => Action.fail (.wrongCount (.exactly 0) args)

/-- The last of its arguments. -/
def sequence (args : List Value) : Except Cause Value :=
  match args.getLast? with
  | some v => .ok v
  | none => .error (.wrongCount (.atLeast 1) [])

def equal : List Value → Except Cause Value
  | [v, w] => .ok (.truth (v.sameData w))
  | args => .error (.wrongCount (.exactly 2) args)

/-- Raises an error with the text given, or with the text shown for another value. -/
def raise : List Value → Except Cause Value
  | [.text s] => .error (.raised s)
  | [v] => .error (.raised v.render)
  | args => .error (.wrongCount (.exactly 1) args)

/-- Performs the operation of this name on arguments. -/
def apply (name : String) (args : List Value) : Action σ Value :=
  if name = "println" then println args
  else if name = "read-num" then readNumber args
  else if name = "read-str" then readText args
  else if name = "seq" then ofResult (sequence args)
  else if name = "++" then ofResult ((joinText args).map .text)
  else if name = "equal?" then ofResult (equal args)
  else if name = "error" then ofResult (raise args)
  else ofResult (arithmetic name args)

end Primitive

end ArrowLisp
