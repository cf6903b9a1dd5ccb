import HttpTap.Settings.Load
import HttpTap.Settings.Tree

/-!
# Scenarios of loading

Commands that change the surroundings of a program (its variables and its files), and commands
that look for the settings there.
-/

namespace HttpTap
namespace Settings

/-- A command. -/
inductive Command where
  | setVariable (name text : String)
  | unsetVariable (name : String)
  | write (path : Path) (data : Bytes)
  | makeDirectory (path : Path)
  | remove (path : Path)
  | find
  | loadFile (path : Option Path)
  | load (arguments : Arguments)

/-- The answer to a command. -/
inductive Answer where
  | nothing
  /-- What the settings file is called, if there is one. -/
  | file (name : Option String)
  /-- The entries of the section of the file. -/
  | entries (es : List (Value × Value))
  | settings (s : CaptureSettings)

/-- Where the commands are carried out. -/
structure Site where
  surroundings : Surroundings
  tree : Tree

/-- An empty working directory below the root, and no variables. -/
def Site.start (directory : String) : Site :=
  let t := Tree.empty directory
  ⟨t.surroundings [], t⟩

/-- Change the tree. -/
def Site.change (s : Site) (f : Tree → Tree) : Site :=
  let t := f s.tree
  ⟨t.surroundings s.surroundings.bindings, t⟩

/-- Change the variables. -/
def Site.bind (s : Site) (f : Surroundings → Surroundings) : Site :=
  { s with surroundings := f s.surroundings }

/-- What is known of one step. -/
structure Record where
  outcome : Except Fault Answer
  log : List LogRecord

/-- A record of a step that wrote nothing to the log. -/
def Record.silent (outcome : Except Fault Answer) : Record := ⟨outcome, []⟩

/-- A record of a step that may have written to the log. -/
def Record.ofNoted {α : Type} (n : Noted α) (answer : α → Answer) : Record :=
  let (log, outcome) := runNoted n
  ⟨outcome.map answer, log⟩

/-- Carry out one command. -/
def step (s : Site) : Command → Record × Site
  | .setVariable name text =>
    if holdable text then (.silent (.ok .nothing), s.bind (·.setVariable name text))
    else (.silent (.error .zeroInside), s)
  | .unsetVariable name => (.silent (.ok .nothing), s.bind (·.unsetVariable name))
  | .write path data => (.silent (.ok .nothing), s.change (·.write path data))
  | .makeDirectory path => (.silent (.ok .nothing), s.change (·.makeDirectory path))
  | .remove path => (.silent (.ok .nothing), s.change (·.remove path))
  | .find => (.silent ((findFile? s.surroundings).map fun p => .file (p.map Path.toText)), s)
  | .loadFile path => (.ofNoted (Settings.loadFile s.surroundings path) .entries, s)
  | .load arguments => (.ofNoted (Settings.load arguments s.surroundings) .settings, s)

/-- Carry out a list of commands. -/
def run (s : Site) : List Command → List Record
  | [] => []
  | c :: cs =>
    let (record, s) := step s c
    record :: run s cs

end Settings
end HttpTap
