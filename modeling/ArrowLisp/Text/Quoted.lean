import ArrowLisp.Text.Hidden

/-!
# Quoted text

A text between double quotes, with the characters that would not show written as escapes. NUL,
tab, carriage return, newline, the quote and the backslash have two-character escapes. Every other
hidden character is named by its code point in lower-case hexadecimal without padding.
-/

namespace ArrowLisp.Text

/-- A code point in lower-case hexadecimal, without leading zeros. -/
def hexDigits (n : Nat) : List Char :=
  Nat.toDigits 16 n

/-- How one character is written inside a quoted text. -/
def escape (c : Char) : List Char :=
  if c = '\x00' then ['\\', '0']
  else if c = '\t' then ['\\', 't']
  else if c = '\r' then ['\\', 'r']
  else if c = '\n' then ['\\', 'n']
  else if c = '"' then ['\\', '"']
  else if c = '\\' then ['\\', '\\']
  else if isHidden c then ['\\', 'u', '{'] ++ hexDigits c.toNat ++ ['}']
  else [c]

/-- A text between quotes, with its characters escaped. -/
def quoted (s : String) : String :=
  String.ofList ('"' :: s.toList.flatMap escape ++ ['"'])

end ArrowLisp.Text
