import HttpTap.Settings.Surroundings
import HttpTap.Text.Utf8

/-!
# A tree of files

The plainest system there is: directories and files with names, a working directory among them, no
links and nothing that is locked.  Steps downwards go by name, a step upwards goes back by one, and
upwards from the root leads to the root.

A name has at most 255 bytes and a path at most 4095.  Of two things that are wrong with a path the
one that comes first on the way counts.
-/

namespace HttpTap

/-- What stands at a place: a directory or a file. -/
inductive Node where
  | directory
  | file (data : Bytes)
  deriving DecidableEq

/-- A tree, seen from a working directory.  Places are given by the steps from the root. -/
structure Tree where
  here : List String
  nodes : List (List String × Node)

namespace Tree

/-- A working directory below the root, and nothing in it. -/
def empty (name : String) : Tree := ⟨[name], [([name], .directory)]⟩

/-- What stands at a place. -/
def nodeAt? (t : Tree) (place : List String) : Option Node :=
  if place.isEmpty then some .directory else t.nodes.lookup place

/-- The place that steps lead to. -/
def follow (t : Tree) (place : List String) : List String → Except Denial (List String)
  | [] => .ok place
  | step :: steps =>
    match t.nodeAt? place with
    | none => .error .missing
    | some (.file _) => .error .noDirectory
    | some .directory =>
      if step = ".." then t.follow place.dropLast steps
      else if 255 < (Text.Utf8.encode step).length then .error (.other "File name too long")
      else t.follow (place ++ [step]) steps

/-- Where the steps of a path begin. -/
def origin (t : Tree) (p : Path) : List String := if p.root = "" then t.here else []

/-- What stands at a path. -/
def find (t : Tree) (p : Path) : Except Denial Node :=
  if 4095 < (Text.Utf8.encode p.toText).length then .error (.other "File name too long")
  else do
    let place ← t.follow (t.origin p) p.steps
    match t.nodeAt? place with
    | some n => return n
    | none => throw .missing

/-- What the system answers. -/
def system (t : Tree) : System where
  isFile p := (t.find p).map fun
    | .file _ => true
    | .directory => false
  bytes p := do
    match ← t.find p with
    | .file data => return data
    | .directory => throw .directory

/-- The working directory, if it is still there. -/
def directory (t : Tree) : Except Denial Path :=
  if t.nodeAt? t.here = some .directory then .ok ⟨"/", t.here⟩ else .error .missing

/-- A program in the working directory. -/
def surroundings (t : Tree) (bindings : List (String × String)) : Surroundings where
  bindings := bindings
  directory := t.directory
  system := t.system
  nesting := 450

/-! ## Changes -/

/-- Put a node at a place. -/
def place (t : Tree) (steps : List String) (n : Node) : Tree :=
  if steps.isEmpty then t else { t with nodes := (steps, n) :: t.nodes.filter (·.1 != steps) }

/-- Make the directories on the way that are missing, and go on from there. -/
def makeWay (t : Tree) (from_ : List String) : List String → List String × Tree
  | [] => (from_, t)
  | step :: steps =>
    if step = ".." then t.makeWay from_.dropLast steps
    else
      let next := from_ ++ [step]
      let t := if (t.nodeAt? next).isSome then t else t.place next .directory
      t.makeWay next steps

/-- Make a directory and those above it. -/
def makeDirectory (t : Tree) (p : Path) : Tree := (t.makeWay (t.origin p) p.steps).2

/-- Write a file, making the directories above it. -/
def write (t : Tree) (p : Path) (data : Bytes) : Tree :=
  match p.steps.getLast? with
  | none => t
  | some name =>
    let (way, t) := t.makeWay (t.origin p) p.steps.dropLast
    t.place (way ++ [name]) (.file data)

/-- Remove what stands at a path. -/
def remove (t : Tree) (p : Path) : Tree :=
  match t.follow (t.origin p) p.steps with
  | .ok place => { t with nodes := t.nodes.filter (·.1 != place) }
  | .error _ => t

end Tree
end HttpTap
