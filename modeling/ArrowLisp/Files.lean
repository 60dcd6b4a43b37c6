import ArrowLisp.Text.Bytes
import ArrowLisp.Text.Stream

/-!
# The files a process can see

Files and directories, each named by its place: the parts of its path below the working directory.
A place outside the working directory starts with two dots, once for each step up, or with a slash
for the root. A path is walked part by part: an empty part or a dot stays in place, two dots go up,
and each part but the last has to lead to a directory. Paths and their parts have greatest lengths,
counted in bytes.
-/

namespace ArrowLisp

inductive Node where
  | file (content : Text.Stream)
  | directory
  /-- The null device: nothing to read, and what is written is gone. -/
  | null
deriving DecidableEq, Repr

inductive FileError where
  | notFound
  | notDirectory
  | isDirectory
  | nameTooLong
  | notText

def FileError.message : FileError → String
  | .notFound => "No such file or directory (os error 2)"
  | .notDirectory => "Not a directory (os error 20)"
  | .isDirectory => "Is a directory (os error 21)"
  | .nameTooLong => "File name too long (os error 36)"
  | .notText => "stream did not contain valid UTF-8"

/-- The parts of a text between the occurrences of a separator. -/
def splitParts (separator : Char) : List Char → List (List Char)
  | [] => [[]]
  | c :: cs =>
    if c = separator then [] :: splitParts separator cs
    else
      match splitParts separator cs with
      | [] => [[c]]
      | part :: rest => (c :: part) :: rest

/-- The files and directories at their places. -/
structure Files where
  entries : List (List String × Node)

namespace Files

/-- Where a part of a path leads from a place; places are kept innermost part first here. -/
def enter (place : List String) (part : String) : List String :=
  if part = "" ∨ part = "." then place
  else if part = ".." then
    match place with
    | [] => [".."]
    | ["/"] => ["/"]
    | ".." :: up => ".." :: ".." :: up
    | _ :: up => up
  else part :: place

/-- Where a path starts. -/
def origin (path : String) : List String :=
  if path.toList.head? = some '/' then ["/"] else []

/-- The parts of a path. -/
def parts (path : String) : List String :=
  (splitParts '/' path.toList).map String.ofList

/-- The place that a path names, whether or not anything stands there. -/
def place (path : String) : List String :=
  ((parts path).foldl enter (origin path)).reverse

/-- What is there whatever else is. -/
def devices : List (String × Node) := [("/dev/null", .null)]

/-- The files with these paths, and the devices. -/
def ofList (entries : List (String × Node)) : Files :=
  ⟨(devices ++ entries).map fun e => (place e.1, e.2)⟩

/-- What stands at a place. The working directory, the directories above it and the root are
always there, and a directory is also known by what it holds. -/
def node? (fs : Files) (place : List String) : Option Node :=
  if place.all (· == "..") || place == ["/"] then some .directory
  else
    match fs.entries.find? (·.1 == place) with
    | some (_, node) => some node
    | none => if fs.entries.any (place.isPrefixOf ·.1) then some .directory else none

/-- The most bytes that a path may have. -/
def maxPathLength : Nat := 4095

/-- The most bytes that one part of a path may have. -/
def maxPartLength : Nat := 255

/-- Takes one step from a place, which has to be a directory. -/
def step (fs : Files) (place : List String) (part : String) : Except FileError (List String) :=
  match fs.node? place.reverse with
  | none => .error .notFound
  | some .directory =>
    if maxPartLength < part.utf8ByteSize then .error .nameTooLong else .ok (enter place part)
  | some _ => .error .notDirectory

/-- The parts of a path that may be walked at all. -/
def walkable (path : String) : Except FileError (List String) :=
  if path = "" then .error .notFound
  else if maxPathLength < path.utf8ByteSize then .error .nameTooLong
  else .ok (parts path)

/-- The place a path leads to; the last part need not exist. -/
def resolve (fs : Files) (path : String) : Except FileError (List String) := do
  let place ← (← walkable path).foldlM fs.step (origin path)
  return place.reverse

/-- What a path leads to. -/
def find (fs : Files) (path : String) : Except FileError Node := do
  match fs.node? (← fs.resolve path) with
  | some node => return node
  | none => throw .notFound

/-- The content of a file. -/
def readStream (fs : Files) (path : String) : Except FileError Text.Stream := do
  match ← fs.find path with
  | .file content => return content
  | .null => return []
  | .directory => throw .isDirectory

/-- The content of a file that is text throughout. -/
def readText (fs : Files) (path : String) : Except FileError (List Char) := do
  let content ← fs.readStream path
  match content.text? with
  | some cs => return cs
  | none => throw .notText

/-- Does the path lead to a file? -/
def isFile (fs : Files) (path : String) : Bool :=
  match fs.find path with
  | .ok (.file _) => true
  | _ => false

/-- Puts a node at a place. -/
def insert (fs : Files) (place : List String) (node : Node) : Files :=
  ⟨fs.entries.filter (·.1 != place) ++ [(place, node)]⟩

/-- Writes content at a place where there is no directory. -/
def put (fs : Files) (place : List String) (content : Text.Stream) : Except FileError Files :=
  match fs.node? place with
  | some .directory => .error .isDirectory
  | some .null => .ok fs
  | _ => .ok (fs.insert place (.file content))

/-- Is the part a step that makes no name? -/
def isDots (part : String) : Bool :=
  part == "." || part == ".."

/-- Writes a file, new or in place of another one. All but the last part of the path has to lead to
a directory; a last part that is followed by a slash or consists of dots names a directory. -/
def write (fs : Files) (path : String) (content : Text.Stream) : Except FileError Files := do
  let reversed := (← walkable path).reverse
  match reversed.dropWhile (· == "") with
  | [] => throw .isDirectory
  | last :: before =>
    let named := !isDots last && reversed.head? == some last
    let directory ← before.reverse.foldlM fs.step (origin path)
    let place ← fs.step directory (if named then last else "")
    if named then fs.put place.reverse content else throw .isDirectory

/-- The names in the directory at a place, each with whether it is a directory. -/
def children (fs : Files) (place : List String) : List (String × Bool) :=
  let names := fs.entries.filterMap fun e =>
    if place.isPrefixOf e.1 then (e.1.drop place.length).head? else none
  (names.filter fun name => name != ".." && name != "/").eraseDups.map fun name =>
    (name, match fs.node? (place ++ [name]) with
      | some .directory => true
      | _ => false)

end Files

end ArrowLisp
