import ArrowLisp.Text.GraphemeClass

/-!
# Grapheme clusters

A text cut into clusters: the units that a reader takes for single characters, such as a letter
with its marks, a syllable, a flag or a family of pictographs. Whether a character goes on with the
cluster before it depends on its class and on the end of that cluster.
-/

namespace ArrowLisp.Text

/-- How far the end of a cluster has come towards a conjunct. -/
inductive Conjunct where
  | none
  /-- A consonant, and nothing that joins it to another one. -/
  | started
  /-- A consonant and a linker. -/
  | linked
deriving DecidableEq, Repr

/-- What the end of a cluster has to remember. -/
structure ClusterEnd where
  last : GraphemeClass
  /-- An odd number of flag halves at the end. -/
  halfFlag : Bool
  /-- A pictograph and extenders after it. -/
  picture : Bool
  /-- The same with a joiner after it. -/
  joinedPicture : Bool
  conjunct : Conjunct

namespace ClusterEnd

/-- The end of no cluster; nothing goes on with it. -/
def start : ClusterEnd :=
  { last := .control, halfFlag := false, picture := false, joinedPicture := false,
    conjunct := .none }

/-- The step towards a conjunct that a character takes. -/
def nextConjunct (t : ClusterEnd) (c : Char) : Conjunct :=
  if graphemeClass c = .consonant then .started
  else if isLinker c then (if t.conjunct = .none then .none else .linked)
  else if isTransparent c then t.conjunct
  else .none

/-- The end after one more character. -/
def push (t : ClusterEnd) (c : Char) : ClusterEnd :=
  { last := graphemeClass c
    halfFlag := graphemeClass c == .regional && !t.halfFlag
    picture := graphemeClass c == .pictograph || (t.picture && graphemeClass c == .extender)
    joinedPicture := t.picture && graphemeClass c == .joiner
    conjunct := t.nextConjunct c }

/-- Does a cluster with this end go on with a character? -/
def goesOnWith (t : ClusterEnd) (c : Char) : Bool :=
  match t.last, graphemeClass c with
  | .carriageReturn, .newline => true
  | .carriageReturn, _ | .newline, _ | .control, _ => false
  | _, .carriageReturn | _, .newline | _, .control => false
  | .hangulLead, .hangulLead | .hangulLead, .hangulVowel => true
  | .hangulLead, .hangulOpen | .hangulLead, .hangulClosed => true
  | .hangulOpen, .hangulVowel | .hangulOpen, .hangulTail => true
  | .hangulVowel, .hangulVowel | .hangulVowel, .hangulTail => true
  | .hangulClosed, .hangulTail | .hangulTail, .hangulTail => true
  | _, .extender | _, .joiner | _, .spacingMark => true
  | .prepended, _ => true
  | _, .consonant => t.conjunct == .linked
  | .joiner, .pictograph => t.joinedPicture
  | .regional, .regional => t.halfFlag
  | _, _ => false

end ClusterEnd

/-- The part of a text that goes on with the cluster before it, and the clusters after that. -/
def clustersAfter (t : ClusterEnd) : List Char → List Char × List (List Char)
  | [] => ([], [])
  | c :: cs =>
    let rest := clustersAfter (t.push c) cs
    if t.goesOnWith c then (c :: rest.1, rest.2) else ([], (c :: rest.1) :: rest.2)

/-- The clusters of a text. -/
def clusters (cs : List Char) : List (List Char) :=
  (clustersAfter .start cs).2

end ArrowLisp.Text
