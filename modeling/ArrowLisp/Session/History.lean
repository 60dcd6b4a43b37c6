import ArrowLisp.Text.Stream

/-!
# History

The entries of a session, oldest first, up to a limit. An empty entry and an entry equal to the one
before it are not added. The saved form is a mark on the first line and then one entry a line,
with newlines and backslashes escaped; a file without the mark holds entries as they are.
-/

namespace ArrowLisp.Session

structure History where
  entries : List String := []
  limit : Nat
  /-- How many of the entries are not saved yet. -/
  fresh : Nat := 0
deriving DecidableEq, Repr

namespace History

/-- Adds an entry, dropping the oldest one when there are too many. -/
def add (h : History) (entry : String) : History :=
  if h.limit = 0 ∨ entry = "" ∨ h.entries.getLast? = some entry then h
  else
    let kept := if h.entries.length = h.limit then h.entries.drop 1 else h.entries
    let entries := kept ++ [entry]
    { h with entries, fresh := min (h.fresh + 1) entries.length }

/-- The first line of a saved history. -/
def mark : String := "#V2"

/-- Writes newlines and backslashes as escapes. -/
def escapeEntry (cs : List Char) : List Char :=
  cs.flatMap fun c => if c = '\\' then ['\\', '\\'] else if c = '\n' then ['\\', 'n'] else [c]

/-- Reads escapes back, if there are no other escapes than those that are written. -/
def unescapeEntry : List Char → Option (List Char)
  | [] => some []
  | '\\' :: 'n' :: rest => (unescapeEntry rest).map ('\n' :: ·)
  | '\\' :: '\\' :: rest => (unescapeEntry rest).map ('\\' :: ·)
  | '\\' :: _ => none
  | c :: rest => (unescapeEntry rest).map (c :: ·)

/-- Adds one line of a saved history. A line with a wrong escape stands for itself. -/
def addLine (marked : Bool) (h : History) (line : List Char) : History :=
  if line.isEmpty then h
  else if marked then h.add (String.ofList ((unescapeEntry line).getD line))
  else h.add (String.ofList line)

/-- Adds the lines of a stream, at most `fuel` of them. Entries from a stream count as saved once
its end is reached, and not if a line is no text. -/
def addLines (marked : Bool) : Nat → History → Text.Stream → History
  | 0, h, _ => { h with fresh := 0 }
  | fuel + 1, h, stream =>
    match stream.readLine with
    | (.atEnd, _) => { h with fresh := 0 }
    | (.garbled, _) => h
    | (.line line, rest) => addLines marked fuel (h.addLine marked line) rest

/-- Adds the entries of a saved history. -/
def load (h : History) (stream : Text.Stream) : History :=
  match stream.readLine with
  | (.atEnd, _) => { h with fresh := 0 }
  | (.garbled, _) => h
  | (.line first, rest) =>
    if String.ofList first = mark then addLines true rest.length h rest
    else addLines false rest.length (h.add (String.ofList first)) rest

/-- Is there anything to save? -/
def needsSaving (h : History) : Bool :=
  !h.entries.isEmpty && h.fresh != 0

/-- The saved form. -/
def saved (h : History) : List Char :=
  (mark :: h.entries).flatMap fun entry =>
    escapeEntry entry.toList ++ ['\n']

end History

end ArrowLisp.Session
