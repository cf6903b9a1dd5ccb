import HttpTap.Patching.Basic

/-!
# Registering a patch

A patch for a module is applied at once if the module is loaded and carries no mark; otherwise it
waits.  Applying means to call the patch and, if it returns, to mark the module.  A patch that
fails leaves the registration in place and the module without a mark, so that a later patch gets
its chance.

Registering again replaces the patch.  Withdrawing forgets it and takes the mark away, and the
module is as if it had never been patched as far as the registry knows; undoing what the patch
did is up to whoever made it.
-/

namespace HttpTap
namespace Registry

variable {P σ : Type}

/-- The channel of this part. -/
def channel : String := "instrumentation.registry"

/-- The line about a module that was patched. -/
def patchedLine (n : ModuleName) : LogRecord := .detail channel ("Patched module " ++ n.text)

/-- Apply a patch to the module loaded under a name, unless that is marked; `work` is what the
patch does. -/
def applyPatch (p : P) (n : ModuleName) (work : Patching P σ Unit) : Patching P σ Unit := do
  match (← get).loaded n with
  | none => return
  | some m =>
    if m.marked then return
    modify fun r => r.note (.called p n m.object m.marked)
    work
    modify fun r => ((r.setMark n true).note (.applied p n m.object)).say (patchedLine n)

/-- Register a patch, and apply it if the module is loaded. -/
def register (p : P) (n : ModuleName) (work : Patching P σ Unit) : Patching P σ Unit := do
  modify fun r => r.setPatch n (some p)
  applyPatch p n work

/-- Withdraw the patch of a module and take its mark away. -/
def withdraw (n : ModuleName) : Patching P σ Unit :=
  modify fun r => ((r.setPatch n none).setMark n false).note (.withdrawn n)

end Registry
end HttpTap
