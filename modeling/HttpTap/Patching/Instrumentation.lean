import HttpTap.Patching.Registry

/-!
# Instrumentations

An instrumentation is made for one module and brings a patch and a way to undo it.  An enabled
one registers its patch when it is made.  Taking it back withdraws the patch registered for the
module, whoever registered it, and undoes the instrumentation's own patch if it is enabled and the
module is loaded.
-/

namespace HttpTap

/-- The fixed part of an instrumentation. -/
structure Instrumentation where
  name : String
  module : ModuleName
  enabled : Bool
  deriving DecidableEq

namespace Instrumentation

variable {P σ : Type}

/-- The channel of this part. -/
def channel : String := "instrumentation.base"

/-- Put an instrumentation to work; `work` is what its patch does. -/
def start (i : Instrumentation) (p : P) (work : Patching P σ Unit) : Patching P σ Unit :=
  if i.enabled then Registry.register p i.module work
  else modify fun r =>
    r.say (.detail channel (i.name ++ " disabled, not patching " ++ i.module.text))

/-- Take an instrumentation back; `undo` undoes its patch. -/
def stop (i : Instrumentation) (p : P) (undo : Patching P σ Unit) : Patching P σ Unit := do
  Registry.withdraw i.module
  if ((← get).loaded i.module).isSome && i.enabled then
    modify fun r => r.note (.undone p i.module)
    undo

end Instrumentation
end HttpTap
