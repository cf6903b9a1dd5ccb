import HttpTap.Proofs.Patching.Marking

/-!
# Patches, marks and loading in order

The registry, the marks on the modules and the loader tell one story, and each of them can be asked
how far it has come.  `InOrder` says that they agree, whatever moves were made and whichever patches
failed:

* the registry holds the patch that was registered last, unless it was withdrawn since;
* between two withdrawals at most one of the patches that are called on an object returns, and a
  loaded module is marked exactly if one has returned since the last withdrawal;
* a loaded module that its registered patch has not marked is one on which this patch was called
  last, without success;
* a module that is loaded has its code executed first and the registered patch called on it then;
* a move for one module writes on the page of that module only.

Two things need care.  A directory without code is a package too, but the finder has nothing to
put its loader around and leaves such a package to others.  So a bare directory is loaded without
a call of its patch, and has no mark until a patch is registered anew.  And to load a module inside
a package that is not loaded is two moves in one, the first of them for the package; this is the
field `inside`.

The patches do what they like with the rest of the program, which includes to fail, but they make
no moves of their own, and neither does the code of a module.
-/

namespace HttpTap
namespace Registry

open Patching

variable {P σ : Type} {r start : Registry P σ} {k n : ModuleName} {m : LoadedModule} {p : P}
  {effect : P → ModuleName → ExceptT Fault (StateM σ) Unit} {x : Except Fault Unit} {s : σ}
  {source : ModuleSource}

/-! ## What is registered -/

/-- The patch that is registered for a module after a move. -/
def Move.entry (n : ModuleName) (now : Option P) : Move P → Option P
  | .register k p => if k = n then some p else now
  | .withdraw k => if k = n then none else now
  | .load _ => now

/-- The patch that was registered last for a module and not withdrawn since. -/
def registered (moves : List (Move P)) (n : ModuleName) : Option P :=
  moves.foldl (Move.entry n) none

/-- What a call of a patch adds to the tale of a module: that it was called, and that it returned
if it did. -/
def attempt (p : P) (n : ModuleName) (object : Nat) : Except Fault Unit → List (PatchEvent P)
  | .ok _ => [.applied p n object, .called p n object false]
  | .error _ => [.called p n object false]

/-- Nothing has been registered yet, and no module is marked. -/
structure Fresh (r : Registry P σ) : Prop where
  patches : ∀ n, r.patches n = none
  history : r.history = []
  unmarked : ∀ n m, r.loaded n = some m → m.marked = false
  numbered : ∀ n m, r.loaded n = some m → m.object < r.nextObject

theorem Fresh.sound (h : Fresh r) : r.Sound := by
  intro n
  have tale : (r.page n).tale = [] := by
    show r.history.filter _ = []
    rw [h.history, List.filter_nil]
  refine ⟨?_, h.numbered n, ?_, fun m loaded => ?_, fun m p _ patch => ?_⟩
  · rw [tale]
    exact nofun
  · rw [tale]
    exact .nil
  · rw [tale]
    exact h.unmarked n m loaded
  · exact absurd ((h.patches n).symm.trans patch) nofun

end Registry
end HttpTap
