import HttpTap.Exchange.Send
import HttpTap.Patching.Instrumentation

/-!
# Instrumenting the client library

An instrument of the client library is at work when it is put to work as the instrumentation of a
module: its patch wraps the function by which the sessions of the module send, and undoing the
patch puts back what was wrapped.

Three things have to agree for that, and different parts look after them.  The registry marks the
module as patched; the module holds the function by which its sessions send; and each instrument
remembers what it has wrapped.
-/

namespace HttpTap
namespace Client

/-- The registry, with the world of exchanges that its patches change. -/
abbrev Site := Registry (Ref Instrument) World

/-- Do something in the world of exchanges. -/
def inWorld {α : Type} (a : Act α) : Patching (Ref Instrument) World α := fun site =>
  let (result, w) := Act.go a site.other
  (result, { site with other := w })

/-- The name of the module. -/
def moduleName : ModuleName := ⟨["requests"]⟩

/-- The instrumentation that an instrument is. -/
def instrumentation (enabled : Bool) : Instrumentation :=
  ⟨"RequestsInstrumentation", moduleName, enabled⟩

/-- Make an instrument, which is put to work if it is enabled. -/
def create (m : Ref ClientModule) (i : Instrument) (enabled : Bool) :
    Patching (Ref Instrument) World (Ref Instrument) := do
  let r ← inWorld (Act.addInstrument i)
  (instrumentation enabled).start r (inWorld (Act.wrapModule r m))
  return r

/-- Take an instrument back. -/
def uninstrument (m : Ref ClientModule) (r : Ref Instrument) (enabled : Bool) :
    Patching (Ref Instrument) World Unit :=
  (instrumentation enabled).stop r (inWorld (Act.unwrapModule r m))

end Client
end HttpTap
