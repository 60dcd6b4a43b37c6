import ArrowLisp.Files
import ArrowLisp.Scope
import ArrowLisp.Text.Blank
import ArrowLisp.Text.Bytes

/-!
# Completion

What a session offers when the user asks to complete the text before the cursor. Cursor positions
are byte offsets. A session command is completed at the start of a line, the path of a load command
from the files, and any other word from the names of the top level.

The start of a word is taken to be one byte after the last separator. Where that separator is
longer than a byte, this falls inside a character and there is no answer, as there is none for a
cursor past the end or inside a character.
-/

namespace ArrowLisp.Session

/-- The commands of a session. -/
def commandNames : List String := [":help", ":quit", ":exit", ":history", ":load"]

/-- The names a word can be completed to, in order and each of them once. -/
def completionNames : List String :=
  (Scope.topLevel.names.mergeSort fun a b => decide (a ≤ b)).eraseReps

def isSeparator (c : Char) : Bool :=
  Text.isBlank c || ['(', ')', '[', ']', '{', '}', ','].contains c

/-- A text to offer: how it is shown and what it puts into the line. -/
structure Candidate where
  shown : String
  replacement : String
deriving DecidableEq, Repr

structure Completion where
  /-- The offset from which on the line is replaced. -/
  start : Nat
  candidates : List Candidate
deriving DecidableEq, Repr

/-- Offers a word as it is. -/
def Candidate.ofWord (word : String) : Candidate :=
  ⟨word, word⟩

/-- The texts that go on from a word. -/
def extensionsOf (word : List Char) (names : List String) : List String :=
  names.filter (word.isPrefixOf ·.toList)

/-- Where the last word of a text is taken to start. -/
def wordStart (before : List Char) : Nat :=
  match Text.lastOffset? isSeparator before with
  | some offset => offset + 1
  | none => 0

/-- Completes the word before the cursor. -/
def completeWord (line : List Char) (pos : Nat) : Option Completion := do
  let (before, _) ← Text.splitAtByte pos line
  let start := wordStart before
  let (_, word) ← Text.splitAtByte start before
  if word.isEmpty then return ⟨pos, []⟩
  let names :=
    if start = 0 ∧ word.head? = some ':' then commandNames else completionNames
  return ⟨start, (extensionsOf word names).map Candidate.ofWord⟩

/-- The offset of the path in a load command, if the cursor is at or after it. -/
def loadPathStart (line : List Char) (pos : Nat) : Option Nat :=
  let after : Option Nat :=
    if ":l ".toList.isPrefixOf line then some 3
    else if ":load ".toList.isPrefixOf line then some 6
    else none
  after.filter (decide <| · ≤ pos)

/-! ### Paths -/

/-- Characters that end a path unless they are escaped. -/
def isPathBreak (c : Char) : Bool :=
  [' ', '\t', '\n', '"', '\\', '\'', '\x60', '@', '$', '>', '<', '=', ';', '|', '&', '{', '(',
    '\x00'].contains c

/-- Characters that are escaped between double quotes. -/
def isQuoteBreak (c : Char) : Bool :=
  ['"', '$', '\\', '\x60'].contains c

/-- Where a scan for an open quote stands. -/
inductive QuoteScan where
  | plain
  | escaped
  | double (escaped : Bool)
  | single
deriving DecidableEq, Repr

def QuoteScan.next : QuoteScan → Char → QuoteScan
  | .plain, c =>
    if c = '"' then .double false
    else if c = '\\' then .escaped
    else if c = '\'' then .single
    else .plain
  | .escaped, _ => .plain
  | .double true, _ => .double false
  | .double false, c => if c = '"' then .plain else if c = '\\' then .double true else .double false
  | .single, c => if c = '\'' then .plain else .single

/-- The text after the last quote that is still open, with the state it leaves. -/
def openQuote : QuoteScan → List Char → List Char → QuoteScan × List Char
  | scan, since, [] => (scan, since)
  | scan, since, c :: cs =>
    let scan' := scan.next c
    openQuote scan' (if scan = .plain ∧ scan' ≠ .plain then [] else since ++ [c]) cs

/-- Takes escapes off a text. -/
def unescapePath : List Char → List Char
  | [] => []
  | ['\\'] => []
  | '\\' :: c :: cs => c :: unescapePath cs
  | c :: cs => c :: unescapePath cs

def escapePath (isBreak : Char → Bool) (cs : List Char) : List Char :=
  cs.flatMap fun c => if isBreak c then ['\\', c] else [c]

/-- The length of the last path of a reversed text: back to a break that is not escaped. -/
def lastPathLength : List Char → Nat
  | [] => 0
  | c :: cs =>
    if isPathBreak c then
      match cs with
      | '\\' :: rest => lastPathLength rest + 2
      | _ => 0
    else lastPathLength cs + 1

/-- The path to complete, how the replacement is escaped, and the text before the path. -/
def pathToComplete (cs : List Char) : List Char × (List Char → List Char) × List Char :=
  match openQuote .plain [] cs with
  | (.double _, since) =>
    (unescapePath since, escapePath isQuoteBreak, cs.take (cs.length - since.length))
  | (.single, since) => (since, id, cs.take (cs.length - since.length))
  | _ =>
    let n := lastPathLength cs.reverse
    (unescapePath (cs.drop (cs.length - n)), escapePath isPathBreak, cs.take (cs.length - n))

/-- The part of a path up to its last slash, and the rest. -/
def splitPath (path : List Char) : List Char × List Char :=
  let name := (path.reverse.takeWhile (· ≠ '/')).reverse
  (path.take (path.length - name.length), name)

/-- A directory with the home directory in place of a tilde as its first part; without a known
home the tilde stands for itself. -/
def expandHome (home : Option String) (directory : List Char) : List Char :=
  match home, directory with
  | some home, '~' :: '/' :: rest => home.toList ++ '/' :: rest
  | _, _ => directory

/-- The entries of a directory whose names go on from a name, in order of name. -/
def matchingEntries (fs : Files) (directory name : List Char) : List (String × Bool) :=
  let place :=
    if directory.isEmpty then .ok [] else fs.resolve (String.ofList directory)
  match place with
  | .error _ => []
  | .ok place =>
    match fs.node? place with
    | some .directory =>
      ((fs.children place).filter (name.isPrefixOf ·.1.toList)).mergeSort
        fun a b => decide (a.1 ≤ b.1)
    | _ => []

/-- Completes a path from the files; the offset is within the text given. -/
def completePath (fs : Files) (home : Option String) (cs : List Char) : Completion :=
  let (path, escape, before) := pathToComplete cs
  let (directory, name) := splitPath path
  ⟨Text.byteLength before, (matchingEntries fs (expandHome home directory) name).map fun e =>
    let full := directory ++ e.1.toList ++ (if e.2 then ['/'] else [])
    ⟨e.1, String.ofList (escape full)⟩⟩

/-- Completes the text before the cursor. -/
def complete (fs : Files) (home : Option String) (line : List Char) (pos : Nat) :
    Option Completion :=
  match loadPathStart line pos with
  | none => completeWord line pos
  | some start => do
    let (before, _) ← Text.splitAtByte pos line
    let (_, path) ← Text.splitAtByte start before
    let found := completePath fs home path
    return { found with start := start + found.start }

end ArrowLisp.Session
