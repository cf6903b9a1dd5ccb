import HttpTap.Proofs.Settings.Sources
import HttpTap.Proofs.Yaml.Blame
import HttpTap.Proofs.Yaml.Supply

/-!
# What a settings file comes to

A file holds bytes, and bytes are read in one of three ways (`Settings.readBytes`).  They stand for
a value (`Settings.Holds`), they break a rule of the language (`Settings.Garbled`), or they break
the reading itself (`Settings.Breaks`).  They do that only if something in them is to blame: the
document fails before there is a tree, or a place in the tree stands for no value
(`Settings.Culprit`).  One block of bytes that is no text always breaks the reading
(`Settings.breaks_of_short`).

`Loaded` lists what loading comes to, one way for each state of the file.  Loading fails if looking
for the file fails (`Settings.Lost` says when it does), if the path of the file is one that the
system cannot be given, and if the bytes break the reading.  A file that cannot be opened or is
garbled gives a line and nothing else, and so does a value without a section; a section is given
without a line.
-/

namespace HttpTap
namespace Settings

/-! ## Bytes and values -/

/-- Bytes are read as a document, with so much room for collections inside each other. -/
def readBytes (room : Nat) (data : Bytes) : Except Yaml.Defect Value := Yaml.read room (.ofBytes data)

/-- The bytes stand for the value. -/
def Holds (room : Nat) (data : Bytes) (v : Value) : Prop := readBytes room data = .ok v

/-- The bytes break a rule of the language. -/
def Garbled (room : Nat) (data : Bytes) : Prop := readBytes room data = .error .malformed

/-- The bytes break the reading, which fails with this fault. -/
def Breaks (room : Nat) (data : Bytes) (f : Fault) : Prop :=
  readBytes room data = .error (.unbuildable f)

/-- The section of a value, if the value and its section are mappings. -/
def section? (v : Value) : Option (List (Value × Value)) :=
  match orEmpty v with
  | .dict entries =>
    match orEmpty ((Value.entryAt? entries section_).getD .null) with
    | .dict inner => some inner
    | .cycle true => some entries
    | _ => none
  | _ => none

section Bytes

variable {room : Nat} {data : Bytes} {f : Fault}

end Bytes

/-! ## Looking for the file -/

section File

variable {s : Surroundings} {path : Option Path} {p : Path} {data : Bytes} {v : Value} {f : Fault}

/-- Nothing can be read off the file: it cannot be opened, or it is garbled. -/
def Unreadable (s : Surroundings) (p : Path) : Prop :=
  (∃ d, s.bytes p = .ok (.error d)) ∨
    ∃ data, s.bytes p = .ok (.ok data) ∧ Garbled s.nesting data

/-- What loading a file comes to. -/
inductive Loaded (s : Surroundings) : Except Fault (Option Path) → List LogRecord →
    Except Fault (List (Value × Value)) → Prop
  | lost {f : Fault} : Loaded s (.error f) [] (.error f)
  | nothing : Loaded s (.ok none) [] (.ok [])
  | unnameable {p : Path} (h : p.isNameable = false) :
    Loaded s (.ok (some p)) [] (.error .zeroInside)
  | unreadable {p : Path} (h : Unreadable s p) : Loaded s (.ok (some p))
    [.complaint channel ("Failed to read config file " ++ p.toText)] (.ok [])
  | ignored {p : Path} {data : Bytes} {v : Value} {message : String}
    (stands : s.bytes p = .ok (.ok data)) (holds : Holds s.nesting data v)
    (missing : section? v = none) : Loaded s (.ok (some p)) [.complaint channel message] (.ok [])
  | found {p : Path} {data : Bytes} {v : Value} {entries : List (Value × Value)}
    (stands : s.bytes p = .ok (.ok data)) (holds : Holds s.nesting data v)
    (present : section? v = some entries) : Loaded s (.ok (some p)) [] (.ok entries)
  | broken {p : Path} {data : Bytes} {f : Fault}
    (stands : s.bytes p = .ok (.ok data)) (breaks : Breaks s.nesting data f) :
    Loaded s (.ok (some p)) [] (.error f)

end File

end Settings
end HttpTap
