import HttpTap.Log.Record
import HttpTap.Work

/-!
# Loaded modules and their patches

A client library is a module that the program may load at any time, or may have loaded already.
To change it, the library keeps a *registry* of patches by the names of modules.  This module
holds the registry together with what it works on: the modules that can be loaded, and the ones
that are.

## Names

A module is named by its own part and the names of the packages around it, innermost first.  The
package around a module is then the tail of its name, and loading a module with all that is
around it is recursion on the name.

## Marks

A loaded module is marked when a patch has been applied to it.  The mark belongs to the loaded
object, not to the name: a module that is loaded again is a new object and carries no mark.
Objects are numbered in the order in which they come up.

## What happened

The registry keeps a history of the calls on patches, so that one can say what was applied to
which object and when.
-/

namespace HttpTap

/-- The name of a module, its own part first. -/
structure ModuleName where
  parts : List String
  deriving DecidableEq

namespace ModuleName

/-- The name that a text spells with points. -/
def ofString (s : String) : ModuleName := ⟨(String.splitOn s ".").reverse⟩

/-- The text of a name. -/
def text (n : ModuleName) : String := ".".intercalate n.parts.reverse

end ModuleName

/-- What the code of a module does when it is executed. -/
inductive ModuleCode where
  /-- It defines its value. -/
  | defines
  | fails (f : Fault)

/-- What is found under the name of a module. -/
inductive ModuleSource where
  | file (code : ModuleCode)
  | package (code : ModuleCode)
  /-- A directory without code. -/
  | directory

/-- The modules that can be loaded. -/
structure Shelf where
  files : List (ModuleName × ModuleCode)
  packages : List (ModuleName × ModuleCode)
  directories : List ModuleName

namespace Shelf

/-- No modules. -/
def empty : Shelf := ⟨[], [], []⟩

/-- The directories around a module. -/
def around : List String → List ModuleName
  | [] => []
  | [_] => []
  | _ :: outer => ⟨outer⟩ :: around outer

/-- Put the code of a module on the shelf. -/
def addFile (s : Shelf) (n : ModuleName) (code : ModuleCode) : Shelf :=
  { s with files := (n, code) :: s.files, directories := around n.parts ++ s.directories }

/-- Put the code of a package on the shelf. -/
def addPackage (s : Shelf) (n : ModuleName) (code : ModuleCode) : Shelf :=
  { s with
    packages := (n, code) :: s.packages
    directories := n :: around n.parts ++ s.directories }

/-- Put a directory without code on the shelf. -/
def addDirectory (s : Shelf) (n : ModuleName) : Shelf :=
  { s with directories := n :: around n.parts ++ s.directories }

/-- What is found under a name: a package before a single file, and a file before a bare
directory. -/
def find? (s : Shelf) (n : ModuleName) : Option ModuleSource :=
  match s.packages.lookup n, s.files.lookup n with
  | some code, _ => some (.package code)
  | none, some code => some (.file code)
  | none, none => if s.directories.contains n then some .directory else none

end Shelf

/-- A loaded module. -/
structure LoadedModule where
  /-- The number of the object. -/
  object : Nat
  /-- Are there modules inside? -/
  isPackage : Bool
  /-- Has its code defined its value? -/
  hasValue : Bool
  /-- Has a patch been applied? -/
  marked : Bool
  deriving DecidableEq

/-- Something that happened to a patch, a module or a mark. -/
inductive PatchEvent (P : Type) where
  /-- The code of a module was executed. -/
  | executed (module : ModuleName) (object : Nat)
  /-- A patch was called on a module. -/
  | called (patch : P) (module : ModuleName) (object : Nat) (marked : Bool)
  /-- A patch returned normally, and the module was marked. -/
  | applied (patch : P) (module : ModuleName) (object : Nat)
  /-- The patch of a module was withdrawn. -/
  | withdrawn (module : ModuleName)
  /-- A patch was undone on a module. -/
  | undone (patch : P) (module : ModuleName)

/-- The registry of patches of a type, with the modules it works on and whatever else the patches
change. -/
structure Registry (P σ : Type) where
  shelf : Shelf
  loaded : ModuleName → Option LoadedModule
  patches : ModuleName → Option P
  /-- The number of the next object. -/
  nextObject : Nat
  /-- What happened, the latest first. -/
  history : List (PatchEvent P)
  /-- What the library has said, the latest first. -/
  log : List LogRecord
  other : σ

/-- Work with the registry, which may fail. -/
abbrev Patching (P σ : Type) := Work (Registry P σ)

namespace Registry

variable {P σ : Type}

/-- Nothing is loaded and nothing is registered. -/
def empty (other : σ) : Registry P σ := ⟨.empty, fun _ => none, fun _ => none, 0, [], [], other⟩

/-- Load or unload under a name. -/
def setLoaded (r : Registry P σ) (n : ModuleName) (m : Option LoadedModule) : Registry P σ :=
  { r with loaded := fun k => if k = n then m else r.loaded k }

/-- Register or withdraw under a name. -/
def setPatch (r : Registry P σ) (n : ModuleName) (p : Option P) : Registry P σ :=
  { r with patches := fun k => if k = n then p else r.patches k }

/-- Set the mark of the module under a name, if it is loaded. -/
def setMark (r : Registry P σ) (n : ModuleName) (marked : Bool) : Registry P σ :=
  r.setLoaded n ((r.loaded n).map fun m => { m with marked := marked })

/-- Note that something happened. -/
def note (r : Registry P σ) (e : PatchEvent P) : Registry P σ :=
  { r with history := e :: r.history }

/-- Write a line to the log. -/
def say (r : Registry P σ) (line : LogRecord) : Registry P σ := { r with log := line :: r.log }

/-- Is a marked module loaded under the name? -/
def isMarked (r : Registry P σ) (n : ModuleName) : Bool := (r.loaded n).any LoadedModule.marked

@[simp] theorem loaded_setLoaded_same (r : Registry P σ) (n : ModuleName)
    (m : Option LoadedModule) : (r.setLoaded n m).loaded n = m := by
  simp [setLoaded]

theorem loaded_setLoaded_other (r : Registry P σ) {k n : ModuleName} (h : k ≠ n)
    (m : Option LoadedModule) : (r.setLoaded n m).loaded k = r.loaded k := by
  simp [setLoaded, h]

@[simp] theorem patches_setPatch_same (r : Registry P σ) (n : ModuleName) (p : Option P) :
    (r.setPatch n p).patches n = p := by
  simp [setPatch]

theorem patches_setPatch_other (r : Registry P σ) {k n : ModuleName} (h : k ≠ n) (p : Option P) :
    (r.setPatch n p).patches k = r.patches k := by
  simp [setPatch, h]

end Registry
end HttpTap
