import HttpTap.Value.Key
import HttpTap.Yaml.Node
import HttpTap.Yaml.Scalar.Meaning

/-!
# From the tree of a document to its value

Scalars stand for what their tag and text say, sequences for lists, mappings for mappings.  A
mapping may take over the entries of others under a special key; its own entries go last and so
win.

## Which fault counts

A document may hold several things that stand for no value.  The one nearest to the root counts,
and of those equally near the first.  So a failure carries the depth at which it was met, and
`both` joins two results by that rule.
-/

namespace HttpTap
namespace Yaml

/-- A failure and how deep in the tree it was met. -/
structure Blemish where
  depth : Nat
  defect : Defect

/-- What comes of a part of the tree. -/
abbrev Built := Except Blemish

namespace Built

/-- A part that breaks a rule. -/
def malformed {α : Type} (depth : Nat) : Built α := .error ⟨depth, .malformed⟩

/-- Two parts together. -/
def both {α β : Type} (a : Built α) (b : Built β) : Built (α × β) :=
  match a, b with
  | .ok x, .ok y => .ok (x, y)
  | .error e, .ok _ => .error e
  | .ok _, .error f => .error f
  | .error e, .error f => .error (if f.depth < e.depth then f else e)

/-- A part in front of others. -/
def cons {α : Type} (a : Built α) (as : Built (List α)) : Built (List α) :=
  (both a as).map fun (x, xs) => x :: xs

/-- Parts in front of others. -/
def append {α : Type} (as bs : Built (List α)) : Built (List α) :=
  (both as bs).map fun (xs, ys) => xs ++ ys

/-- A part that is checked before another one is made. -/
def guarded {α : Type} (depth : Nat) (ok : Bool) (a : Built α) : Built α :=
  (both (if ok then .ok () else malformed depth) a).map Prod.snd

/-- A key of a mapping. -/
def key (depth : Nat) (k : Built Value) : Built Value :=
  match k with
  | .ok v => if v.isKey then .ok v else malformed depth
  | .error e => if e.depth ≤ depth then .error e else malformed depth

end Built

namespace Node

/-! ## Merging -/

mutual

/-- Is everything that the entries of a mapping take over a mapping, or a list of mappings? -/
def mergesWell : List (Node × Node) → Bool
  | [] => true
  | (k, v) :: es =>
    (if k.tag? == some .merge then canMerge v else true) && mergesWell es

/-- Can the entries of this node, or of these nodes, be taken over? -/
def canMerge : Node → Bool
  | .mapping _ es => mergesWell es
  | .sequence _ ns => allMappings ns
  | .loop _ => true
  | .scalar .. => false

/-- Are all nodes mappings whose entries can be taken over? -/
def allMappings : List Node → Bool
  | [] => true
  | .mapping _ es :: ns => mergesWell es && allMappings ns
  | .loop isMapping :: ns => isMapping && allMappings ns
  | _ :: _ => false

end

/-! ## Mappings that stand for a scalar -/

mutual

/-- The text of a scalar, or of what a mapping gives as its value. -/
def text? : Node → Option String
  | .scalar _ t => some t
  | .mapping _ es => defaultText? es
  | _ => none

/-- The text of the entry that gives the value. -/
def defaultText? : List (Node × Node) → Option String
  | [] => none
  | (k, v) :: es => if k.tag? == some .default then text? v else defaultText? es

end

/-- A mapping with the tag of a scalar.  A moment cannot be read off a mapping. -/
def scalarOfMapping (depth : Nat) (tag : Tag) (es : List (Node × Node)) : Built Value :=
  match defaultText? es with
  | none => .malformed depth
  | some t =>
    if tag == .moment then
      .error ⟨depth, .unbuildable (.misuse .type "expected string or bytes-like object")⟩
    else (Meaning.ofScalar tag t).mapError (⟨depth, ·⟩)

/-! ## Values -/

mutual

/-- The value of a node. -/
def build (depth : Nat) : Node → Built Value
  | .loop isMapping => .ok (.cycle isMapping)
  | .scalar tag text =>
    match tag with
    | .sequence | .mapping | .orderedMapping | .pairs | .set => .malformed (depth + 1)
    | tag => (Meaning.ofScalar tag text).mapError (⟨depth, ·⟩)
  | .sequence tag items =>
    match tag with
    | .sequence => (buildItems (depth + 1) items).map Value.list
    | .orderedMapping | .pairs => (buildPairs (depth + 1) items).map Value.list
    | .mapping | .set => .malformed (depth + 1)
    | _ => .malformed depth
  | .mapping tag entries =>
    match tag with
    | .mapping =>
      let (merged, own) := buildEntries (depth + 1) entries
      (Built.guarded (depth + 1) (mergesWell entries) (merged.append own)).map fun es =>
        .dict (Value.ofEntries es)
    | .set =>
      let (merged, own) := buildEntries (depth + 1) entries
      (Built.guarded (depth + 1) (mergesWell entries) (merged.append own)).map fun es =>
        .set ((Value.ofEntries es).map Prod.fst)
    | .sequence | .orderedMapping | .pairs => .malformed (depth + 1)
    | tag => if tag.isScalar then scalarOfMapping depth tag entries
      else .malformed depth

/-- The values of a list of nodes. -/
def buildItems (depth : Nat) : List Node → Built (List Value)
  | [] => .ok []
  | n :: ns => (build depth n).cons (buildItems depth ns)

/-- The pairs of a list of mappings with one entry each. -/
def buildPairs (depth : Nat) : List Node → Built (List Value)
  | [] => .ok []
  | .mapping _ [(k, v)] :: ns =>
    Built.cons (((build depth k).both (build depth v)).map fun (a, b) => .tuple [a, b])
      (buildPairs depth ns)
  | _ :: _ => .malformed depth

/-- The entries that a mapping takes over, and its own. -/
def buildEntries (depth : Nat) :
    List (Node × Node) → Built (List (Value × Value)) × Built (List (Value × Value))
  | [] => (.ok [], .ok [])
  | (k, v) :: es =>
    let (merged, own) := buildEntries depth es
    if k.tag? == some .merge then ((takenOver depth v).append merged, own)
    else
      let key := match k with
        | .scalar .default t => .ok (.text t)
        | k => build depth k
      (merged, Built.cons ((Built.key depth key).both (build depth v)) own)

/-- The entries of a node, or of the nodes of a list, of which the first ones win. -/
def takenOver (depth : Nat) : Node → Built (List (Value × Value))
  | .mapping _ es =>
    let (merged, own) := buildEntries depth es
    merged.append own
  | .sequence _ ns => takenOverAll depth ns
  | _ => .ok []

/-- The entries of the mappings of a list, those of the last one in front. -/
def takenOverAll (depth : Nat) : List Node → Built (List (Value × Value))
  | [] => .ok []
  | .mapping _ es :: ns =>
    let (merged, own) := buildEntries depth es
    (takenOverAll depth ns).append (merged.append own)
  | _ :: ns => takenOverAll depth ns

end

end Node
end Yaml
end HttpTap
