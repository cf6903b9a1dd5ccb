import HttpTap.Patching.Instrumentation

/-!
# Applying a patch and undoing it

Work with the registry is a function from a registry to a result and a registry, and a failing
piece of work keeps what it has changed so far.  `Work.go` runs it.

The lemmas say what the two halves of an instrumentation come to.  Starting it registers the patch,
which is called exactly if the module is loaded without a mark; stopping it takes the mark away in
any case, and undoes the patch if the instrumentation is enabled and the module is loaded.
-/

namespace HttpTap

namespace Patching

variable {P σ α β : Type} {site site' : Registry P σ}

export Work (go go_bind go_bind_of_ok go_bind_of_error)

theorem go_tryCatch_of_ok {a : Patching P σ α} {x : α} (h : go a site = (.ok x, site'))
    (g : Fault → Patching P σ α) : go (tryCatch a g) site = (.ok x, site') := by
  rw [go] at h ⊢
  simp only [tryCatch, tryCatchThe, MonadExceptOf.tryCatch, ExceptT.tryCatch, ExceptT.mk, bind,
    StateT.bind, h]
  rfl

theorem go_tryCatch_of_error {a : Patching P σ α} {f : Fault} (h : go a site = (.error f, site'))
    (g : Fault → Patching P σ α) : go (tryCatch a g) site = go (g f) site' := by
  rw [go] at h ⊢
  simp only [tryCatch, tryCatchThe, MonadExceptOf.tryCatch, ExceptT.tryCatch, ExceptT.mk, bind,
    StateT.bind, h]
  rfl

theorem go_get_bind (f : Registry P σ → Patching P σ β) (site : Registry P σ) :
    go (get >>= f) site = go (f site) site := rfl

theorem go_modify_bind (g : Registry P σ → Registry P σ) (f : PUnit → Patching P σ β)
    (site : Registry P σ) : go (modify g >>= f) site = go (f ⟨⟩) (g site) := rfl

end Patching

namespace Registry

open Patching

variable {P σ : Type} {site worked : Registry P σ} {p : P} {n : ModuleName} {m : LoadedModule}
  {work : Patching P σ Unit}

theorem loaded_setMark (r : Registry P σ) (n : ModuleName) (marked : Bool) :
    (r.setMark n marked).loaded n = (r.loaded n).map fun m => { m with marked := marked } :=
  loaded_setLoaded_same r n _

/-- A marked module is not patched again. -/
theorem go_register_of_marked (loaded : site.loaded n = some m) (marked : m.marked = true) :
    go (register p n work) site = (.ok (), site.setPatch n (some p)) := by
  have same : (site.setPatch n (some p)).loaded n = some m := loaded
  rw [register, go_modify_bind, applyPatch, go_get_bind, same]
  dsimp only
  rw [if_pos marked]
  rfl

/-- A module without a mark is patched and marked. -/
theorem go_register_of_unmarked (loaded : site.loaded n = some m) (unmarked : m.marked = false)
    (done : go work ((site.setPatch n (some p)).note (.called p n m.object m.marked)) =
      (.ok (), worked)) :
    go (register p n work) site =
      (.ok (), ((worked.setMark n true).note (.applied p n m.object)).say (patchedLine n)) := by
  have same : (site.setPatch n (some p)).loaded n = some m := loaded
  rw [register, go_modify_bind, applyPatch, go_get_bind, same]
  dsimp only
  rw [if_neg (by rw [unmarked]; exact Bool.false_ne_true), go_modify_bind, go_bind_of_ok done]
  rfl

/-- The registry after the patch of a module was withdrawn. -/
def withdrawn (r : Registry P σ) (n : ModuleName) : Registry P σ :=
  ((r.setPatch n none).setMark n false).note (.withdrawn n)

theorem loaded_withdrawn (r : Registry P σ) (n : ModuleName) :
    (r.withdrawn n).loaded n = (r.loaded n).map fun m => { m with marked := false } :=
  loaded_setLoaded_same _ n _

end Registry

namespace Instrumentation

open Patching Registry

variable {P σ : Type} {site : Registry P σ} {p : P} {i : Instrumentation} {m : LoadedModule}
  {work undo : Patching P σ Unit}

theorem go_start_of_disabled (disabled : i.enabled = false) :
    go (i.start p work) site = (.ok (), site.say
      (.detail channel (i.name ++ " disabled, not patching " ++ i.module.text))) := by
  rw [start, if_neg (by rw [disabled]; exact Bool.false_ne_true)]
  rfl

theorem go_start_of_enabled (enabled : i.enabled = true) :
    go (i.start p work) site = go (register p i.module work) site := by
  rw [start, if_pos enabled]

/-- Taking a disabled instrumentation back takes the mark away nevertheless. -/
theorem go_stop_of_disabled (disabled : i.enabled = false) :
    go (i.stop p undo) site = (.ok (), site.withdrawn i.module) := by
  rw [stop, withdraw, go_modify_bind, go_get_bind, disabled, Bool.and_false,
    if_neg Bool.false_ne_true]
  rfl

/-- Taking an enabled one back undoes its patch after that. -/
theorem go_stop_of_enabled (enabled : i.enabled = true) (loaded : site.loaded i.module = some m) :
    go (i.stop p undo) site = go undo ((site.withdrawn i.module).note (.undone p i.module)) := by
  have still : ((site.withdrawn i.module).loaded i.module).isSome = true := by
    rw [loaded_withdrawn, loaded]
    rfl
  rw [stop, withdraw, go_modify_bind, go_get_bind]
  show go (if ((site.withdrawn i.module).loaded i.module).isSome && i.enabled then _ else _) _ = _
  rw [still, enabled, Bool.and_true, if_pos rfl, go_modify_bind]
  rfl

end Instrumentation
end HttpTap
