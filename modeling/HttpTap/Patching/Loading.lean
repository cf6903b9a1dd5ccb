import HttpTap.Patching.Registry

/-!
# Loading modules

A module that is loaded already is taken as it is.  Otherwise the package around it is loaded
first, then the module is looked for, an empty object is put under its name, its code is
executed, and last the patch that was registered when it was looked for is applied.  If the code
or the patch fails, the object does not stay.

A directory without code counts as a package.  It has nothing to execute, and it is never
patched while it is being loaded.
-/

namespace HttpTap
namespace Registry

variable {P σ : Type}

/-- The fault for a module that is not there. -/
def notFound : Fault := .misuse .moduleNotFound "No module named"

namespace Source

/-- Are there modules inside? -/
def isPackage : ModuleSource → Bool
  | .file _ => false
  | .package _ | .directory => true

/-- The code, if there is any. -/
def code? : ModuleSource → Option ModuleCode
  | .file code | .package code => some code
  | .directory => none

end Source

/-- Put an object without a mark under a name. -/
def place (n : ModuleName) (isPackage : Bool) : Patching P σ Nat := do
  let object := (← get).nextObject
  modify fun r => { r.setLoaded n (some ⟨object, isPackage, false, false⟩) with
    nextObject := object + 1 }
  return object

/-- Execute the code of a module. -/
def execute (n : ModuleName) (object : Nat) (code : ModuleCode) : Patching P σ Unit := do
  modify fun r => r.note (.executed n object)
  match code with
  | .defines =>
    modify fun r => r.setLoaded n ((r.loaded n).map fun m => { m with hasValue := true })
  | .fails f => throw f

/-- Run some work, and if it fails take away what is loaded under a name. -/
def orUnload (n : ModuleName) (work : Patching P σ Unit) : Patching P σ Unit :=
  tryCatch work fun f => do
    modify fun r => r.setLoaded n none
    throw f

/-- Load a module from what was found under its name; `work` says what a patch does. -/
def loadFrom (work : P → ModuleName → Patching P σ Unit) (n : ModuleName)
    (source : ModuleSource) : Patching P σ Unit := do
  let patch := (← get).patches n
  let object ← place n (Source.isPackage source)
  match Source.code? source with
  | none => return
  | some code =>
    orUnload n do
      execute n object code
      match patch with
      | some p => applyPatch p n (work p n)
      | none => return

/-- Look for a module and load it. -/
def findAndLoad (work : P → ModuleName → Patching P σ Unit) (n : ModuleName) :
    Patching P σ Unit := do
  match (← get).shelf.find? n with
  | some source => loadFrom work n source
  | none => throw notFound

/-- Load a module, given its own part and the names around it. -/
def importParts (work : P → ModuleName → Patching P σ Unit) : List String → Patching P σ Unit
  | [] => throw notFound
  | part :: outer => do
    if ((← get).loaded ⟨part :: outer⟩).isSome then return
    if outer.isEmpty then findAndLoad work ⟨[part]⟩
    else
      importParts work outer
      if ((← get).loaded ⟨part :: outer⟩).isSome then return
      if ((← get).loaded ⟨outer⟩).any LoadedModule.isPackage then
        findAndLoad work ⟨part :: outer⟩
      else throw notFound

/-- Load a module. -/
def importModule (work : P → ModuleName → Patching P σ Unit) (n : ModuleName) :
    Patching P σ Unit := importParts work n.parts

end Registry
end HttpTap
