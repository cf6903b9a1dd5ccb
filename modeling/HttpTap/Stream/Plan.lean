import HttpTap.Stream.Source

/-!
# Plans of streams

A plan says what a stream will be before it has a name.  Every opening of the content of a
scripted entity builds a fresh stream from a plan.
-/

namespace HttpTap

/-- What a stream will be. -/
inductive StreamPlan where
  /-- A stand-in. -/
  | standIn (script : Script) (closeFault : Option Fault) (closable : Bool)
  /-- A stream over the items of a generator. -/
  | chunks (items : List Item)
  /-- A stream over the pieces of another one. -/
  | file (inner : StreamPlan) (size : Int)

namespace StreamPlan

/-- The stream, its stand-in named. -/
def build (name : String) : StreamPlan → Source
  | standIn script closeFault closable =>
    .ofStandIn ⟨name, script, false, closeFault, closable, []⟩
  | chunks items => .ofItems (generated items)
  | file inner size => (inner.build name).inPieces size

/-- A stream without a byte. -/
def nothing : StreamPlan := standIn (.data [] none none) none true

instance : Inhabited StreamPlan := ⟨nothing⟩

end StreamPlan
end HttpTap
