import HttpTap.Fault
import HttpTap.Value.Basic

/-!
# Values given by name

Whoever makes something may give some of the values that it is made of, each under its name, and
leave the others as they are usually.  A name that is not known spoils all of it: nothing is made
then, whatever the other names say.
-/

namespace HttpTap

/-- Values under their names. -/
structure Named where
  entries : List (String × Value)

namespace Named

/-- Nothing is given. -/
def nothing : Named := ⟨[]⟩

/-- The fault for a name that is not known. -/
def unknownName : Fault := .misuse .type "got an unexpected keyword argument"

/-- The values, if all of their names are known. -/
def among (known : List String) (given : Named) : Except Fault Named :=
  if given.entries.all fun e => known.contains e.1 then .ok given else .error unknownName

/-- The value under a name, or the usual one. -/
def get (given : Named) (name : String) (usual : Value) : Value :=
  (given.entries.lookup name).getD usual

end Named
end HttpTap
