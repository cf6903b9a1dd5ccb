import HttpTap.Fault

/-!
# The surroundings of a program

Settings come from the environment and from a file.  What a program sees of them is here: the
variables with their texts, the working directory, and the answers of the system to two questions
about a path, whether it leads to a file and which bytes can be read there.  Nothing is assumed
about these answers.  A path may lead through links or across devices, directories may be locked,
and a file may come and go between two questions.

## Paths

A path is a list of steps from the working directory, or from the root.  Steps that say "here" and
doubled slashes are dropped when a path is taken in; a step upwards is kept, because what is above
depends on what is there.

## Denials

Instead of an answer the system may give a denial.  Some of them mean that there is nothing to be
found, and whoever only asks whether there is a file takes those for a no.  Any other one is a
fault: a directory that may not be searched, a name that is too long.
-/

namespace HttpTap

/-- Can the system be given the text?  A character zero would end it. -/
def holdable (text : String) : Bool := !text.toList.contains '\x00'

/-- A path as it was given, without the steps that lead nowhere. -/
structure Path where
  /-- The slashes in front of an absolute path. -/
  root : String
  steps : List String
  deriving DecidableEq

namespace Path

/-- What stands between the slashes of a text. -/
def parts : List Char → List (List Char)
  | [] => [[]]
  | c :: cs =>
    if c == '/' then [] :: parts cs
    else match parts cs with
      | [] => [[c]]
      | part :: others => (c :: part) :: others

/-- Take in a path.  Two leading slashes are not the same as one; more than two are. -/
def ofString (s : String) : Path :=
  let slashes := (s.toList.takeWhile (· == '/')).length
  let root := if slashes = 0 then "" else if slashes = 2 then "//" else "/"
  ⟨root, ((parts s.toList).filter fun p => p != [] && p != ['.']).map String.ofList⟩

example : ofString "/work//./a.yaml" = ⟨"/", ["work", "a.yaml"]⟩ := by decide +kernel

/-- The text of a path. -/
def toText (p : Path) : String :=
  let steps := "/".intercalate p.steps
  if p.root = "" && steps = "" then "." else p.root ++ steps

/-- Go on from a path.  An absolute path goes on from nowhere. -/
def join (p q : Path) : Path := if q.root = "" then ⟨p.root, p.steps ++ q.steps⟩ else q

/-- Can the system be given the path? -/
def isNameable (p : Path) : Bool := holdable p.toText

end Path

/-- Why the system does not give what it is asked for. -/
inductive Denial where
  /-- Nothing is there. -/
  | missing
  /-- A step leads on from something that is no directory. -/
  | noDirectory
  /-- Links lead back to themselves. -/
  | circle
  /-- What is there is a directory and holds no bytes. -/
  | directory
  /-- It is not permitted. -/
  | forbidden
  /-- Anything else: a name that is too long, a device that fails. -/
  | other (message : String)
  deriving DecidableEq

namespace Denial

/-- Does the denial mean that there is nothing to be found? -/
def isAbsence : Denial → Bool
  | missing | noDirectory | circle => true
  | directory | forbidden | other _ => false

/-- The fault that a denial is. -/
def fault : Denial → Fault
  | missing => .misuse .missing "No such file or directory"
  | noDirectory => .misuse .noDirectory "Not a directory"
  | circle => .misuse .system "Too many levels of symbolic links"
  | directory => .misuse .directory "Is a directory"
  | forbidden => .misuse .forbidden "Permission denied"
  | other message => .misuse .system message

end Denial

/-- What the system answers about a path that it can be given. -/
structure System where
  /-- Does the path lead to a file? -/
  isFile : Path → Except Denial Bool
  /-- The bytes that can be read where the path leads. -/
  bytes : Path → Except Denial Bytes

/-- Variables, the working directory and the system. -/
structure Surroundings where
  bindings : List (String × String)
  /-- The working directory, which may be gone. -/
  directory : Except Denial Path
  system : System
  /-- How deep collections may be nested in a document before reading it exceeds the room there is
  for calls inside each other. -/
  nesting : Nat

namespace Surroundings

/-- The text of a variable. -/
def textOf? (s : Surroundings) (name : String) : Option String := s.bindings.lookup name

/-- Set a variable. -/
def setVariable (s : Surroundings) (name text : String) : Surroundings :=
  { s with bindings := (name, text) :: s.bindings.filter (·.1 != name) }

/-- Unset a variable. -/
def unsetVariable (s : Surroundings) (name : String) : Surroundings :=
  { s with bindings := s.bindings.filter (·.1 != name) }

/-- Is there a file at the path?  There is none at a path that the system cannot be given. -/
def isFile (s : Surroundings) (p : Path) : Except Fault Bool :=
  if p.isNameable then
    match s.system.isFile p with
    | .ok answer => .ok answer
    | .error d => if d.isAbsence then .ok false else .error d.fault
  else .ok false

/-- What comes of reading a file: its bytes, or a denial.  A path that the system cannot be given
is a fault. -/
def bytes (s : Surroundings) (p : Path) : Except Fault (Except Denial Bytes) :=
  if p.isNameable then .ok (s.system.bytes p) else .error .zeroInside

end Surroundings
end HttpTap
