import ArrowLisp.Text.Bytes
import ArrowLisp.Text.Grapheme

/-!
# Typed lines

A line that comes from no terminal may hold backspaces, and they are carried out: each takes away
the cluster before it, and at the start of the line there is nothing to take away. The number of
bytes of a cluster is kept in one byte. Of a cluster of 256 bytes or more a backspace therefore
takes away only so many of the last bytes as the remainder says, and if these do not end between
two characters there is no line.
-/

namespace ArrowLisp.Session

def backspace : Char := '\x08'

/-- A line while it is typed. -/
structure Typed where
  /-- The text, last character first. -/
  reversed : List Char := []
  /-- The sizes of the clusters, the last one first. -/
  sizes : List Nat := []

/-- Sizes are counted modulo this. -/
def sizeModulus : Nat := 256

/-- Adds a cluster. -/
def Typed.append (t : Typed) (cluster : List Char) : Typed :=
  ⟨cluster.reverse ++ t.reversed, Text.byteLength cluster % sizeModulus :: t.sizes⟩

/-- Takes away the last cluster, as far as its size is known. -/
def Typed.erase (t : Typed) : Option Typed :=
  match t.sizes with
  | [] => some t
  | size :: sizes => (Text.splitAtByte size t.reversed).map fun cut => ⟨cut.2, sizes⟩

/-- Types a cluster, which may be a backspace. -/
def Typed.type (t : Typed) (cluster : List Char) : Option Typed :=
  if cluster = [backspace] then t.erase else some (t.append cluster)

/-- The text of a line after its backspaces. -/
def typedLine (line : List Char) : Option (List Char) :=
  ((Text.clusters line).foldlM Typed.type {}).map (·.reversed.reverse)

end ArrowLisp.Session
