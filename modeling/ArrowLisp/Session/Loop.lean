import ArrowLisp.Session.Buffer
import ArrowLisp.Session.History
import ArrowLisp.Session.Typing
import ArrowLisp.Session.World
import ArrowLisp.Text.Blank

/-!
# Interactive sessions

A session prompts for lines until the input ends or the user leaves. A line that starts an entry
may be a command; all other lines go into the entry buffer. Entries, complete or refused, become
history, which is saved when the session ends. A line that cannot be typed crashes the session, and
then nothing is saved.
-/

namespace ArrowLisp.Session

/-- The version shown to users. -/
def versionNumber : String := "0.1.0"

/-- What a session carries from line to line. -/
structure State where
  world : World
  buffer : Buffer := {}
  history : History

namespace State

def write (text : String) (st : State) : State :=
  { st with world := st.world.write text }

def writeLine (text : String) (st : State) : State :=
  { st with world := st.world.writeLine text }

def complain (message : String) (st : State) : State :=
  { st with world := st.world.complain message }

def paint (st : State) (style : Style) (text : String) : String :=
  st.world.palette.paint style text

end State

/-! ### What is written -/

/-- A row of equal characters. -/
def rule (c : Char) (width : Nat) : String :=
  String.ofList (List.replicate width c)

def banner (p : Palette) : String :=
  p.paint Colour.brightCyan.bold "AAQZ" ++ " " ++
    p.paint Colour.brightBlack.regular ("v" ++ versionNumber) ++ "\n" ++
  "  " ++ p.paint Colour.brightWhite.regular "Type" ++ " " ++
    p.paint Colour.brightGreen.bold ":help" ++ " | " ++
    p.paint Colour.brightGreen.bold ":quit" ++ " " ++
    p.paint Colour.brightWhite.regular "to exit" ++ "\n\n"

/-- A line of a list of things and what they do. -/
def helpItem (p : Palette) (colour : Colour) (item : String × String) : String :=
  "    " ++ p.paint colour.regular (padRight 12 item.1) ++ " " ++ item.2 ++ "\n"

/-- The title of a part of the help text. -/
def helpTitle (p : Palette) (title : String) : String :=
  "\n  " ++ p.paint Colour.brightYellow.bold title ++ "\n"

/-- A line of the help text that shows a piece of the language. -/
def helpSample (p : Palette) (colour : Colour) (sample : String) : String :=
  "    " ++ p.paint colour.regular sample ++ "\n"

def helpText (p : Palette) : String :=
  let separator := p.paint Colour.brightBlack.regular (rule '━' 50)
  "\n" ++ separator ++ "\n" ++
  "  " ++ p.paint Colour.brightCyan.bold "AAQZ REPL" ++ "\n" ++
  separator ++ "\n" ++
  helpTitle p "Commands" ++
  String.join ([(":help", "Show this help"), (":quit", "Exit the REPL"),
    (":history", "Show history"), (":l <file>", "Load and evaluate a file")].map
      (helpItem p .brightGreen)) ++
  helpTitle p "Syntax" ++
  String.join (["(if (<= x 0) \"small\" \"big\")", "\x7b((x y) => (+ x y)) 1 2\x7d",
    "(seq (println \"hi\") (read-num))"].map (helpSample p .brightWhite)) ++
  helpTitle p "Primitives" ++
  String.join ([" ".intercalate primitiveNames, "true false"].map
    (helpSample p .brightMagenta)) ++
  helpTitle p "Navigation" ++
  String.join ([("↑/↓", "Browse history"), ("Ctrl+R", "Search history"),
    ("Tab", "Complete names and paths"), ("Ctrl+C", "Interrupt"), ("Ctrl+D", "Exit")].map
      (helpItem p .brightMagenta)) ++
  "\n" ++ separator ++ "\n\n"

/-- How many entries the history command shows. -/
def historyShown : Nat := 20

/-- One entry with its number, which is counted from one. -/
def historyLine (p : Palette) (number : Nat) (entry : String) : String :=
  "  " ++ p.paint Colour.brightBlack.regular (padLeft 3 (toString number) ++ ":") ++ " " ++
    p.paint Colour.brightWhite.regular entry ++ "\n"

/-- The latest entries of a history. -/
def historyLines (p : Palette) (h : History) : String :=
  let skipped := h.entries.length - historyShown
  (if skipped = 0 then ""
    else
      "  " ++ p.paint Colour.brightBlack.regular "..." ++ " " ++ toString skipped ++
        " entries omitted\n") ++
  String.join ((h.entries.drop skipped).mapIdx fun i entry =>
    historyLine p (skipped + i + 1) entry)

def historyText (p : Palette) (h : History) : String :=
  let separator := p.paint Colour.brightBlack.regular (rule '─' 60)
  "\n" ++ separator ++ "\n" ++
  p.paint Colour.brightCyan.bold "  REPL History  " ++ "\n" ++
  separator ++ "\n" ++
  (if h.entries.isEmpty then
    "  " ++ p.paint Colour.brightBlack.italic "No history entries yet" ++ "\n"
  else historyLines p h) ++
  separator ++ "\n\n"

/-- The prompt for the next line. -/
def promptText (p : Palette) (b : Buffer) : String :=
  if b.isMultiline then "  "
  else
    p.paint Colour.brightCyan.bold "aaqz" ++
      p.paint Colour.brightBlack.regular ("[" ++ toString b.number ++ "]") ++ "❯ "

def farewell (p : Palette) : String :=
  "\n" ++ p.paint Colour.brightCyan.italic "Goodbye!" ++ "\n"

/-- Shows the outcome of one expression of an entry. -/
def State.showOutcome (st : State) (outcome : Outcome) : State :=
  match outcome with
  | .ok v =>
    st.writeLine (st.paint Colour.brightGreen.bold "=>" ++ " " ++
      st.paint Colour.brightWhite.regular v.render)
  | .error f => st.complain f.message

/-! ### Commands -/

inductive Command where
  | load (path : String)
  | quit
  | help
  | history

/-- The command that a line gives, if its first word is one. -/
def Command.ofLine (line : List Char) : Option Command :=
  match (Text.words line).map String.ofList with
  | [] => none
  | word :: rest =>
    if word = ":l" ∨ word = ":load" then some (.load (rest.head?.getD ""))
    else if word = ":quit" ∨ word = ":exit" then some .quit
    else if word = ":help" then some .help
    else if word = ":history" then some .history
    else none

/-- Reports on a file that was loaded. -/
def State.showLoaded (st : State) (path : String) (outcomes : List Outcome) : State :=
  let failures := outcomes.filterMap fun
    | .ok _ => none
    | .error f => some f.message
  let st := failures.foldl (fun st message => st.complain message) st
  st.writeLine (st.paint Colour.brightGreen.bold "✓" ++ " Loaded " ++
    st.paint Colour.brightCyan.regular path ++ " (" ++ toString outcomes.length ++
    " expressions, " ++ toString failures.length ++ " failed)")

/-- Evaluates a file in the scope of the session. -/
def State.load (depth : Nat) (scope : Scope) (path : String) (st : State) : Option State :=
  if path = "" then
    some (st.complain ("Please provide a file path: " ++
      st.paint Colour.brightGreen.regular ":l <path>" ++ " or " ++
      st.paint Colour.brightGreen.regular ":load <path>"))
  else if !st.world.files.isFile path then
    some (st.complain ("Not a readable file: " ++ st.paint Colour.brightYellow.regular path))
  else
    match st.world.files.readText path with
    | .error e => some (st.complain ("Failed to read file '" ++ path ++ "': " ++ e.message))
    | .ok cs =>
      match runEntry depth scope cs st.world with
      | none => none
      | some (result, world) =>
        let st := { st with world }
        match result with
        | .ok outcomes => some (st.showLoaded path outcomes)
        | .error .incomplete =>
          some (st.complain ("Incomplete input in file " ++
            st.paint Colour.brightYellow.regular path))
        | .error e =>
          some (st.complain ("In file " ++ st.paint Colour.brightYellow.regular path ++ ": " ++
            refusalMessage e))

/-! ### The loop -/

/-- Adds a line to the entry and shows what comes of it. -/
def State.enter (depth : Nat) (scope : Scope) (line : String) (st : State) : Option State :=
  let entry := st.buffer.withLine line
  match st.buffer.handleLine depth scope line st.world with
  | none => none
  | some (result, buffer, world) =>
    let st := { st with buffer, world }
    match result with
    | .needMore => some st
    | .complete outcomes =>
      some (outcomes.foldl State.showOutcome { st with history := st.history.add entry })
    | .refused e =>
      some ({ st with history := st.history.add entry }.complain (refusalMessage e))

/-- Whether a session goes on after a line. -/
inductive Next where
  | proceed (st : State)
  | leave (st : State)

/-- Deals with one line. -/
def State.step (depth : Nat) (scope : Scope) (line : List Char) (st : State) : Option Next :=
  if st.buffer.isMultiline then
    (st.enter depth scope (String.ofList line)).map .proceed
  else if Text.allBlank line then some (.proceed st)
  else
    match Command.ofLine line with
    | some .quit => some (.leave (st.write (farewell st.world.palette)))
    | some .help => some (.proceed (st.write (helpText st.world.palette)))
    | some .history => some (.proceed (st.write (historyText st.world.palette st.history)))
    | some (.load path) => (st.load depth scope path).map .proceed
    | none => (st.enter depth scope (String.ofList line)).map .proceed

/-- The complaint about a line that is no text. -/
def garbledMessage : String :=
  "Io(Error \x7b kind: InvalidData, message: \"stream did not contain valid UTF-8\" \x7d)"

/-- How a session ends. -/
inductive Ending where
  | finished (st : State)
  | crashed (st : State)

/-- Prompts and deals with lines, at most `lines` of them. -/
def loop (depth : Nat) (scope : Scope) (prompts : Bool) : Nat → State → Option Ending
  | 0, st => some (.finished st)
  | lines + 1, st =>
    let st := if prompts then st.write (promptText st.world.palette st.buffer) else st
    let (line, world) := st.world.readLine
    let st := { st with world }
    match line with
    | .atEnd => some (.finished (st.write (farewell st.world.palette)))
    | .garbled => some (.finished (st.complain garbledMessage))
    | .line cs =>
      match typedLine cs with
      | none => some (.crashed st)
      | some cs =>
        match st.step depth scope cs with
        | none => none
        | some (.leave st) => some (.finished st)
        | some (.proceed st) => loop depth scope prompts lines st

/-- Terminals on which the prompt is written although nobody edits the line. -/
def promptingTerminals : List String := ["dumb", "cons25", "emacs"]

/-- What a session needs to know. -/
structure Options where
  depth : Nat
  historyFile : String
  historySize : Nat
  terminal : String

/-- The history at the start of a session; a file that cannot be read is no matter. -/
def initialHistory (o : Options) (files : Files) : History :=
  let h : History := { limit := o.historySize }
  match files.readStream o.historyFile with
  | .ok content => h.load content
  | .error _ => h

/-- Saves the history if there is anything new. -/
def State.saveHistory (o : Options) (st : State) : World :=
  if st.history.needsSaving then
    match st.world.files.write o.historyFile (Text.Stream.ofText st.history.saved) with
    | .ok files => { st.world with files }
    | .error e => st.world.warn ("Warning: Could not save history: " ++ e.message)
  else st.world

/-- What a session leaves behind, and whether it crashed. -/
structure Result where
  world : World
  crashed : Bool

/-- The world after a session has ended. -/
def Ending.result (o : Options) : Ending → Result
  | .finished st => ⟨st.saveHistory o, false⟩
  | .crashed st => ⟨st.world, true⟩

/-- A whole session. Every line of the input is prompted for at most once, and its end once. -/
def run (o : Options) (w : World) : Option Result :=
  let prompts := promptingTerminals.contains o.terminal.toLower
  let st : State := { world := w.write (banner w.palette), history := initialHistory o w.files }
  (loop o.depth Scope.topLevel prompts (w.stdin.length + 1) st).map (Ending.result o)

end ArrowLisp.Session
