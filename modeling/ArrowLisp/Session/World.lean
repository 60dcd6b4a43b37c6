import ArrowLisp.Console
import ArrowLisp.Files
import ArrowLisp.Session.Style

/-!
# The world of a process

The streams and files that a run reads and writes, as one value. Programs talk to the standard
input and output; failures are reported on the standard error. The output streams take all that is
written to them.
-/

namespace ArrowLisp.Session

structure World where
  /-- What is left of the standard input. -/
  stdin : Text.Stream
  stdout : String := ""
  stderr : String := ""
  files : Files
  palette : Palette

namespace World

/-- Writes to the standard output. -/
def write (text : String) (w : World) : World :=
  { w with stdout := w.stdout ++ text }

/-- Writes a line to the standard output. -/
def writeLine (text : String) (w : World) : World :=
  w.write (text ++ "\n")

/-- Writes a line to the standard error. -/
def warn (text : String) (w : World) : World :=
  { w with stderr := w.stderr ++ text ++ "\n" }

/-- Writes an error line. -/
def complain (message : String) (w : World) : World :=
  w.warn (w.palette.paint Colour.red.bold "Error:" ++ " " ++ message)

/-- Takes the next line off the standard input. -/
def readLine (w : World) : Text.LineRead × World :=
  let (line, rest) := w.stdin.readLine
  (line, { w with stdin := rest })

/-- The next line of the standard input for a program. -/
def takeLine (w : World) : Except ConsoleFailure String × World :=
  match w.readLine with
  | (.line cs, w') => (.ok (String.ofList cs), w')
  | (.atEnd, w') => (.error .endOfInput, w')
  | (.garbled, w') => (.error .notText, w')

end World

instance : Console World where
  takeLine := World.takeLine
  print text w := (.ok (), w.write text)
  report := World.complain
  announce := World.writeLine

end ArrowLisp.Session
