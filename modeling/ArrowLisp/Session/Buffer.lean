import ArrowLisp.Program

/-!
# Entries over several lines

An interactive session collects lines until they read as whole data. Lines that are not yet
complete wait in a buffer, joined by newlines. A complete entry is evaluated and counted; an entry
that can never be completed is refused. Either way the buffer is empty afterwards.
-/

namespace ArrowLisp.Session

structure Buffer where
  /-- The lines that wait for more, joined by newlines. -/
  pending : String := ""
  /-- The number of the entry being typed. -/
  number : Nat := 1
deriving DecidableEq, Repr

/-- What became of a line. -/
inductive LineResult where
  | complete (outcomes : List Outcome)
  | needMore
  | refused (e : ParseError)

namespace Buffer

/-- Are there lines that wait for more? -/
def isMultiline (b : Buffer) : Bool :=
  !b.pending.isEmpty

/-- Drops the lines that wait. -/
def clear (b : Buffer) : Buffer :=
  { b with pending := "" }

/-- The waiting lines and one more. -/
def withLine (b : Buffer) (line : String) : String :=
  if b.isMultiline then b.pending ++ "\n" ++ line else line

variable {σ : Type} [Console σ]

/-- Adds a line and evaluates the entry if it is complete. -/
def handleLine (depth : Nat) (scope : Scope) (b : Buffer) (line : String) (s : σ) :
    Option (LineResult × Buffer × σ) :=
  let entry := b.withLine line
  match runEntry depth scope entry.toList s with
  | none => none
  | some (.ok outcomes, s') =>
    some (.complete outcomes, { pending := "", number := b.number + 1 }, s')
  | some (.error .incomplete, s') => some (.needMore, { b with pending := entry }, s')
  | some (.error e, s') => some (.refused e, b.clear, s')

end Buffer

/-- How a session words the refusal of an entry. -/
def refusalMessage : ParseError → String
  | .strayCloser => "Unexpected closing bracket"
  | e => "Parse error: " ++ e.message

end ArrowLisp.Session
