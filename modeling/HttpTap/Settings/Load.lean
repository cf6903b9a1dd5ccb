import HttpTap.Settings.Reading
import HttpTap.Settings.Surroundings
import HttpTap.Work
import HttpTap.Yaml.Reading

/-!
# Loading settings

Each setting has four sources, and the first one that says something usable wins: an argument,
a variable of the environment, the section of a settings file, the standard value.  An argument
is taken as it is.  A variable or an entry that is there and makes no sense is complained about
and passed over; one that is shadowed is not even looked at.

## The settings file

The file is the one that a variable names, or the one at the standard place below the working
directory; a file that is not there is no error unless it was asked for.  A file that cannot be
opened or is malformed is complained about and counts as empty, and so does a file that holds
something else than a mapping with a section that is a mapping.

Other things are not caught.  Looking for the file fails if the working directory is gone or the
system withholds what is at the path.  Reading it fails if its path is one that the system cannot be
given, if it is no text, if it is nested too deep, and if a well-formed scalar in it stands for no
value.
-/

namespace HttpTap
namespace Settings

/-- The work of loading: it writes lines to the log and may fail. -/
abbrev Noted := Work (List LogRecord)

/-- The channel of this part. -/
def channel : String := "core.config"

/-- Write a line. -/
def say (r : LogRecord) : Noted Unit := modify fun log => log ++ [r]

/-- Run the work: the lines written and the outcome. -/
def runNoted {α : Type} (n : Noted α) : List LogRecord × Except Fault α :=
  let (outcome, log) := n.go []
  (log, outcome)

/-! ## Names -/

/-- The section of the file. -/
def section_ : String := "http_body_capture"

/-- The standard place of the file below the working directory. -/
def standardPlace : Path := ⟨"", [".bodycapture", "config.yaml"]⟩

/-- The variable that names the file. -/
def fileVariable : String := "BODYCAPTURE_CONFIG_FILE"

/-! ## The file -/

/-- The file that the variable names.  An empty text names none. -/
def namedFile? (s : Surroundings) : Option Path :=
  ((s.textOf? fileVariable).filter (· != "")).map .ofString

/-- Where to look for the file. -/
def candidate (s : Surroundings) : Except Fault Path :=
  match namedFile? s with
  | some p => .ok p
  | none => (s.directory.mapError Denial.fault).map (·.join standardPlace)

/-- The settings file, if there is one. -/
def findFile? (s : Surroundings) : Except Fault (Option Path) := do
  let path ← candidate s
  return if ← s.isFile path then some path else none

/-- What a file comes to. -/
inductive FileContent where
  /-- It cannot be opened or is malformed. -/
  | unreadable
  | value (v : Value)

/-- What stands in a file. -/
def readFile (s : Surroundings) (p : Path) : Except Fault FileContent := do
  match ← s.bytes p with
  | .error _ => return .unreadable
  | .ok data =>
    match Yaml.read s.nesting (.ofBytes data) with
    | .ok v => return .value v
    | .error .malformed => return .unreadable
    | .error (.unbuildable f) => throw f

/-- Whatever counts as false counts as an empty mapping. -/
def orEmpty (v : Value) : Value := if v.truthy then v else .dict []

/-- Take the section of a value.  A section that is the whole value once more is taken as that. -/
def takeSection (p : Path) (v : Value) : Noted (List (Value × Value)) := do
  match orEmpty v with
  | .dict entries =>
    match orEmpty ((Value.entryAt? entries section_).getD .null) with
    | .dict inner => return inner
    | .cycle true => return entries
    | _ =>
      say (.complaint channel
        ("Ignoring '" ++ section_ ++ "' in " ++ p.toText ++ ": expected a mapping"))
      return []
  | _ =>
    say (.complaint channel
      ("Ignoring config file " ++ p.toText ++ ": expected a mapping at top level"))
    return []

/-- The section of a file. -/
def fileSection (s : Surroundings) (file : Option Path) : Noted (List (Value × Value)) := do
  match file with
  | none => return []
  | some p =>
    match ← (readFile s p : Except Fault FileContent) with
    | .unreadable =>
      say (.complaint channel ("Failed to read config file " ++ p.toText))
      return []
    | .value v => takeSection p v

/-- The file that is looked at: the one that is named, or the one that is found. -/
def chosenFile (s : Surroundings) : Option Path → Except Fault (Option Path)
  | some p => .ok (some p)
  | none => findFile? s

/-- The section of the file that is looked at. -/
def loadFile (s : Surroundings) (path : Option Path) : Noted (List (Value × Value)) := do
  fileSection s (← (chosenFile s path : Except Fault (Option Path)))

/-! ## One setting -/

/-- A setting: its name in the file, its variable, how a source is read, what holds if no source
says anything, and the complaints about a source that makes no sense. -/
structure Setting where
  name : String
  variable_ : String
  read : Value → Except Fault (Option Value)
  standard : Value
  badVariable : String → String
  badEntry : String → String

/-- A switch. -/
def switchSetting (name variable_ : String) : Setting where
  name := name
  variable_ := variable_
  read v := (switch? v).map fun b => b.map Value.bool
  standard := .bool false
  badVariable shown := "Invalid boolean for " ++ variable_ ++ ": " ++ shown ++ ", ignoring"
  badEntry shown :=
    "Invalid boolean for '" ++ name ++ "' in config file: " ++ shown ++ ", ignoring"

/-- Whether requests are recorded. -/
def requestsSetting : Setting :=
  switchSetting "capture_request_body" "BODYCAPTURE_CAPTURE_REQUEST_BODY"

/-- Whether responses are recorded. -/
def responsesSetting : Setting :=
  switchSetting "capture_response_body" "BODYCAPTURE_CAPTURE_RESPONSE_BODY"

/-- The limit. -/
def sizeSetting : Setting where
  name := "max_body_size"
  variable_ := "BODYCAPTURE_MAX_BODY_SIZE"
  read v := .ok ((size? v).map Value.int)
  standard := .int defaultLimit
  badVariable shown :=
    "Invalid value for BODYCAPTURE_MAX_BODY_SIZE: " ++ shown ++ ", using default"
  badEntry shown := "Invalid 'max_body_size' in config file: " ++ shown ++ ", using default"

/-- The descriptive form of a value, which must have one. -/
def requireLiteral (v : Value) : Except Fault String :=
  match v.literal? with
  | some t => .ok t
  | none => .error .numeralTooLong

/-- What one source says: something usable, or nothing, with a complaint if it was there. -/
def consult (setting : Setting) (complaint : String → String) (source : Option Value) :
    Noted (Option Value) := do
  match source with
  | none => return none
  | some v =>
    match ← (setting.read v : Except Fault (Option Value)) with
    | some x => return some x
    | none =>
      say (.complaint channel (complaint (← (requireLiteral v : Except Fault String))))
      return none

/-- The value of a setting. -/
def resolve (setting : Setting) (given : Named) (s : Surroundings)
    (entries : List (Value × Value)) : Noted Value := do
  match given.get setting.name .null with
  | .null =>
    let variable_ := (s.textOf? setting.variable_).map Value.text
    match ← consult setting setting.badVariable variable_ with
    | some x => return x
    | none =>
      match ← consult setting setting.badEntry (Value.entryAt? entries setting.name) with
      | some x => return x
      | none => return setting.standard
  | v => return v

/-! ## All of them -/

/-- What a caller may say: settings by name, and where the file is.  A setting that is given as
nothing at all is left to the other sources. -/
structure Arguments where
  given : Named
  path : Option Path

/-- A caller who says nothing. -/
def Arguments.nothing : Arguments := ⟨.nothing, none⟩

/-- Load the settings. -/
def load (a : Arguments) (s : Surroundings) : Noted CaptureSettings := do
  let given ← (a.given.among CaptureSettings.names : Except Fault Named)
  let entries ← loadFile s a.path
  let requests ← resolve requestsSetting given s entries
  let responses ← resolve responsesSetting given s entries
  let size ← resolve sizeSetting given s entries
  let settings ← (CaptureSettings.make requests responses size : Except Fault CaptureSettings)
  match settings.literal? with
  | some line => say (.detail channel ("Capture config: " ++ line))
  | none => throw .numeralTooLong
  return settings

end Settings
end HttpTap
