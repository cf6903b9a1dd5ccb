import HttpTap.Proofs.Patching.Pages

/-!
# Moves

A program registers patches, withdraws them and loads modules, in any order.  These are its moves,
and a move that fails is a move all the same: whoever made it may catch the fault and go on.

Loading a module first loads the packages around it, so that one move may come to several modules.
They are loaded one after another, each of them not loaded before, and `Chain` lists them.  Most of
what is said about loading needs no more than that.  The order is said by `go_import_of_inner`:
loading a module whose package is missing is to load the package and then, if this went well, the
module.
-/

namespace HttpTap
namespace Registry

open Patching

variable {P σ : Type} {r r' : Registry P σ} {k n : ModuleName} {ns : List ModuleName}
  {effect : P → ModuleName → ExceptT Fault (StateM σ) Unit} {part : String} {outer : List String}

/-- What a program does with patches and modules. -/
inductive Move (P : Type) where
  | register (n : ModuleName) (p : P)
  | withdraw (n : ModuleName)
  | load (n : ModuleName)

namespace Move

/-- The module that a move is made for. -/
def name : Move P → ModuleName
  | .register n _ | .withdraw n | .load n => n

/-- The packages that have to be loaded for a move. -/
def packages : Move P → List ModuleName
  | .register .. | .withdraw _ => []
  | .load n => Shelf.around n.parts

/-- Make a move; `effect` says what the patches do to the rest of the program. -/
def perform (effect : P → ModuleName → ExceptT Fault (StateM σ) Unit) :
    Move P → Patching P σ Unit
  | .register n p => Registry.register p n (outsides effect p n)
  | .withdraw n => Registry.withdraw n
  | .load n => importModule (outsides effect) n

end Move

/-- The registry after a move. -/
def after (effect : P → ModuleName → ExceptT Fault (StateM σ) Unit) (r : Registry P σ)
    (v : Move P) : Registry P σ :=
  (go (v.perform effect) r).2

/-- The registry after several moves. -/
def play (effect : P → ModuleName → ExceptT Fault (StateM σ) Unit) (r : Registry P σ)
    (moves : List (Move P)) : Registry P σ :=
  moves.foldl (after effect) r

/-! ## Loading -/

/-- Some modules were looked for and loaded, each of them not loaded before, the latest first. -/
inductive Chain : List ModuleName → Registry P σ → Registry P σ → Prop
  | start (r : Registry P σ) : Chain [] r r
  | load {ns : List ModuleName} {r r' : Registry P σ} (n : ModuleName)
    {result : Except Fault Unit × Registry P σ} (before : Chain ns r r')
    (absent : r'.loaded n = none) (loads : LoadsAt n r' result) : Chain (n :: ns) r result.2

/-- The names of a module and of the packages around it. -/
def namesOf (parts : List String) : List ModuleName := ⟨parts⟩ :: Shelf.around parts

theorem around_cons (part : String) (inside : outer ≠ []) :
    Shelf.around (part :: outer) = namesOf outer := by
  cases outer with
  | nil => exact absurd rfl inside
  | cons x xs => rfl

theorem go_import_of_loaded {parts : List String} (named : parts ≠ [])
    (loaded : (r.loaded ⟨parts⟩).isSome = true) :
    go (importParts (outsides effect) parts) r = (.ok (), r) := by
  cases parts with
  | nil => exact absurd rfl named
  | cons part outer =>
    rw [importParts, go_get_bind, if_pos loaded]
    rfl

theorem go_import_of_outermost (absent : r.loaded ⟨[part]⟩ = none) :
    go (importParts (outsides effect) [part]) r =
      go (findAndLoad (outsides effect) ⟨[part]⟩) r := by
  rw [importParts, go_get_bind, absent]
  rfl

/-- What is left to do when the package around a module was loaded. -/
def importInside (effect : P → ModuleName → ExceptT Fault (StateM σ) Unit) (part : String)
    (outer : List String) : Patching P σ Unit := do
  if ((← get).loaded ⟨part :: outer⟩).isSome then return
  if ((← get).loaded ⟨outer⟩).any LoadedModule.isPackage then
    findAndLoad (outsides effect) ⟨part :: outer⟩
  else throw notFound

/-- The package around a module is loaded first. -/
theorem go_import_of_inner (absent : r.loaded ⟨part :: outer⟩ = none) (inside : outer ≠ []) :
    go (importParts (outsides effect) (part :: outer)) r =
      go (importParts (outsides effect) outer >>= fun _ => importInside effect part outer) r := by
  rw [importParts, go_get_bind, absent, Option.isSome_none, if_neg Bool.false_ne_true,
    if_neg (by simpa using inside)]
  rfl

/-- A module inside a package that is loaded, or is none. -/
theorem go_importInside_of_absent (absent : r.loaded ⟨part :: outer⟩ = none) :
    go (importInside effect part outer) r =
      if (r.loaded ⟨outer⟩).any LoadedModule.isPackage then
        go (findAndLoad (outsides effect) ⟨part :: outer⟩) r
      else (.error notFound, r) := by
  rw [importInside, go_get_bind, absent, Option.isSome_none, if_neg Bool.false_ne_true,
    go_get_bind]
  split <;> rfl

/-- A module was to be loaded.  A row of modules was loaded for it, packages around it and itself,
and it is there if all went well. -/
structure Imported (parts : List String) (r : Registry P σ)
    (result : Except Fault Unit × Registry P σ) : Prop where
  row : ∃ ns ⊆ namesOf parts, Chain ns r result.2
  there : result.1 = .ok () → (result.2.loaded ⟨parts⟩).isSome = true

theorem Imported.of_loaded {parts : List String} (loaded : (r.loaded ⟨parts⟩).isSome = true) :
    Imported parts r (.ok (), r) :=
  ⟨⟨[], List.nil_subset _, .start r⟩, fun _ => loaded⟩

/-- The module itself comes last. -/
theorem Imported.find (effect : P → ModuleName → ExceptT Fault (StateM σ) Unit)
    (among : ns ⊆ Shelf.around (part :: outer)) (before : Chain ns r r')
    (absent : r'.loaded ⟨part :: outer⟩ = none) :
    Imported (part :: outer) r (go (findAndLoad (outsides effect) ⟨part :: outer⟩) r') :=
  have loads := findAndLoad_loadsAt effect ⟨part :: outer⟩ r'
  ⟨⟨_, List.cons_subset_cons _ among, before.load _ absent loads⟩, loads.there⟩

theorem import_imported (effect : P → ModuleName → ExceptT Fault (StateM σ) Unit)
    (parts : List String) (r : Registry P σ) :
    Imported parts r (go (importParts (outsides effect) parts) r) := by
  induction parts generalizing r with
  | nil => exact ⟨⟨[], List.nil_subset _, .start r⟩, nofun⟩
  | cons part outer ih =>
    cases loaded : r.loaded ⟨part :: outer⟩ with
    | some m =>
      have there : (r.loaded ⟨part :: outer⟩).isSome = true := by rw [loaded]; rfl
      rw [go_import_of_loaded (List.cons_ne_nil _ _) there]
      exact .of_loaded there
    | none =>
      by_cases inside : outer = []
      · subst inside
        rw [go_import_of_outermost loaded]
        exact .find effect (List.nil_subset _) (.start r) loaded
      · obtain ⟨ns, among, chain⟩ := (ih r).row
        rw [← around_cons part inside] at among
        have wider : ns ⊆ namesOf (part :: outer) := List.subset_cons_of_subset _ among
        rw [go_import_of_inner loaded inside]
        rcases run : go (importParts (outsides effect) outer) r with ⟨f | ⟨⟨⟩⟩, r'⟩
        · rw [run] at chain
          rw [go_bind_of_error run]
          exact ⟨⟨ns, wider, chain⟩, nofun⟩
        · rw [run] at chain
          rw [go_bind_of_ok run]
          cases again : r'.loaded ⟨part :: outer⟩ with
          | some m =>
            rw [importInside, go_get_bind, again]
            exact ⟨⟨ns, wider, chain⟩, fun _ => congrArg Option.isSome again⟩
          | none =>
            rw [go_importInside_of_absent again]
            split
            · exact .find effect among chain again
            · exact ⟨⟨ns, wider, chain⟩, nofun⟩

/-- The package around a module, if there is one, is loaded, and the module is not. -/
def Ready (r : Registry P σ) (n : ModuleName) : Prop :=
  r.loaded n = none ∧ ∃ part outer, n.parts = part :: outer ∧
    (outer ≠ [] → (r.loaded ⟨outer⟩).any LoadedModule.isPackage = true)

end Registry
end HttpTap
