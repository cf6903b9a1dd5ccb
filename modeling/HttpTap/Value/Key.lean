import HttpTap.Value.Basic

/-!
# Values as keys

A mapping is asked for its entries by key, so keys are compared.  Two keys are the same if they
are equal as values: the integer one, the double one and the true truth value are one key, but a
text is never a number.  Values that contain others are no keys.

Putting an entry under a key that is there already replaces the value and leaves the key, and its
place in the order, as it was.
-/

namespace HttpTap
namespace Value

/-- Can the value be a key? -/
def isKey : Value → Bool
  | null | bool _ | int _ | float _ | text _ | bytes _ | moment _ => true
  | tuple _ | list _ | set _ | dict _ | cycle _ => false

/-- Are two keys the same? -/
def sameKey : Value → Value → Bool
  | null, null => true
  | text s, text t => s == t
  | bytes s, bytes t => s == t
  | moment s, moment t => s.sameAs t
  | float x, float y => x == y || (x.isZero && y.isZero)
  | float x, v | v, float x =>
    match v.integer? with
    | some n => x.compareInt? n == some .eq
    | none => false
  | v, w =>
    match v.integer?, w.integer? with
    | some m, some n => m == n
    | _, _ => false

/-- Put an entry under a key. -/
def put (key value : Value) : List (Value × Value) → List (Value × Value)
  | [] => [(key, value)]
  | (k, v) :: es => if k.sameKey key then (k, value) :: es else (k, v) :: put key value es

/-- The entries that come of putting one after the other. -/
def ofEntries (es : List (Value × Value)) : List (Value × Value) :=
  es.foldl (fun all (k, v) => put k v all) []

/-- The entry under a text. -/
def entryAt? (es : List (Value × Value)) (name : String) : Option Value :=
  (es.find? fun e => e.1.sameKey (text name)).map Prod.snd

end Value
end HttpTap
