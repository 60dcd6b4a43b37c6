import ArrowLisp.Text.Stream

/-!
# Consoles

A program talks to a console: it takes lines and prints text. Either can fail, and the state after
a failure is kept, since part of the work may have been done. The evaluator works with any state
that has these two operations. Two scripted consoles are given here, both with a fixed list of
lines to take. One records every print as an entry of its own, the other collects one text, and
neither refuses a text. A host can also be told about failures and be shown values, on channels
beside the output of the program; scripted consoles drop both.
-/

namespace ArrowLisp

/-- Why a line could not be taken or a text not be printed. -/
inductive ConsoleFailure where
  | endOfInput
  | notText
  /-- Anything else, in the words of the device. -/
  | device (message : String)
deriving DecidableEq, Repr

def ConsoleFailure.message : ConsoleFailure → String
  | .endOfInput => "No more input available"
  | .notText => "stream did not contain valid UTF-8"
  | .device message => message

/-- States that a program can read lines from and print to. -/
class Console (σ : Type) where
  takeLine : σ → Except ConsoleFailure String × σ
  print : String → σ → Except ConsoleFailure Unit × σ
  /-- Tells the host about a failure. -/
  report : String → σ → σ
  /-- Shows the host a value, on a line of its own. -/
  announce : String → σ → σ

/-- The next of a list of lines. -/
def nextLine : List String → Except ConsoleFailure String × List String
  | [] => (.error .endOfInput, [])
  | line :: rest => (.ok line, rest)

/-- Scripted lines; every print is an entry. -/
structure Transcript where
  input : List String
  entries : List String := []
deriving DecidableEq, Repr

instance : Console Transcript where
  takeLine s := ((nextLine s.input).1, { s with input := (nextLine s.input).2 })
  print text s := (.ok (), { s with entries := s.entries ++ [text] })
  report _ s := s
  announce _ s := s

/-- Scripted lines; the output is one text. -/
structure Recording where
  input : List String
  output : String := ""
deriving DecidableEq, Repr

instance : Console Recording where
  takeLine s := ((nextLine s.input).1, { s with input := (nextLine s.input).2 })
  print text s := (.ok (), { s with output := s.output ++ text })
  report _ s := s
  announce _ s := s

/-- A recording whose lines are those of a text. -/
def Recording.ofText (text : String) : Recording :=
  { input := (Text.lines text.toList).map String.ofList }

/-- Hands out the output collected so far and starts afresh. -/
def Recording.takeOutput (s : Recording) : String × Recording :=
  (s.output, { s with output := "" })

/-- Prints a text and a newline, as two prints; without the text there is no newline. -/
def Console.printLine {σ : Type} [Console σ] (text : String) (s : σ) :
    Except ConsoleFailure Unit × σ :=
  match Console.print text s with
  | (.ok _, s') => Console.print "\n" s'
  | (.error failure, s') => (.error failure, s')

end ArrowLisp
