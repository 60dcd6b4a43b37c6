/-!
# Coloured text

Text for a terminal carries its style in escape codes around it. A text that itself holds the
code that ends a style takes its style up again after it. Where colours are off, the text stands
alone.
-/

namespace ArrowLisp.Session

inductive Colour where
  | red
  | brightBlack
  | brightGreen
  | brightYellow
  | brightMagenta
  | brightCyan
  | brightWhite
deriving DecidableEq, Repr

def Colour.code : Colour → String
  | .red => "31"
  | .brightBlack => "90"
  | .brightGreen => "92"
  | .brightYellow => "93"
  | .brightMagenta => "95"
  | .brightCyan => "96"
  | .brightWhite => "97"

inductive Emphasis where
  | regular
  | bold
  | italic
deriving DecidableEq, Repr

/-- The code of an emphasis, with the mark that divides it from the colour. -/
def Emphasis.code : Emphasis → String
  | .regular => ""
  | .bold => "1;"
  | .italic => "3;"

structure Style where
  colour : Colour
  emphasis : Emphasis
deriving DecidableEq, Repr

/-- A colour and nothing else. -/
def Colour.regular (colour : Colour) : Style := ⟨colour, .regular⟩

def Colour.bold (colour : Colour) : Style := ⟨colour, .bold⟩

def Colour.italic (colour : Colour) : Style := ⟨colour, .italic⟩

/-- The code that starts a style. -/
def Style.start (style : Style) : String :=
  "\x1b[" ++ style.emphasis.code ++ style.colour.code ++ "m"

/-- The code that ends every style. -/
def styleEnd : String := "\x1b[0m"

/-- Puts `code` after every end of a style inside a text. -/
def resumeStyle (code : List Char) : List Char → List Char
  | '\x1b' :: '[' :: '0' :: 'm' :: rest =>
    '\x1b' :: '[' :: '0' :: 'm' :: (code ++ resumeStyle code rest)
  | c :: rest => c :: resumeStyle code rest
  | [] => []

/-- Whether texts are coloured. -/
structure Palette where
  coloured : Bool
deriving DecidableEq, Repr

/-- The text in a style. -/
def Palette.paint (p : Palette) (style : Style) (text : String) : String :=
  if p.coloured then
    let start := style.start
    start ++ String.ofList (resumeStyle start.toList text.toList) ++ styleEnd
  else text

/-- Fills a text with spaces on the right. -/
def padRight (width : Nat) (text : String) : String :=
  text ++ String.ofList (List.replicate (width - text.length) ' ')

/-- Fills a text with spaces on the left. -/
def padLeft (width : Nat) (text : String) : String :=
  String.ofList (List.replicate (width - text.length) ' ') ++ text

end ArrowLisp.Session
