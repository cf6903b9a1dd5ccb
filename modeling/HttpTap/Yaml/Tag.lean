/-!
# Tags

A tag says what a node stands for.  The tags that mean something have names with a common stem;
every other tag means nothing, and a node that carries one stands for no value.
-/

namespace HttpTap
namespace Yaml

/-- What a node stands for. -/
inductive Tag where
  | null
  | truth
  | integer
  | float
  | binary
  | moment
  | text
  /-- A list. -/
  | sequence
  | mapping
  /-- A mapping that is given as the list of its entries. -/
  | orderedMapping
  /-- A list of pairs. -/
  | pairs
  /-- The keys of a mapping. -/
  | set
  /-- The key under which other mappings are merged in. -/
  | merge
  /-- The key of the value that a mapping stands for as a scalar. -/
  | default
  | unknown (name : String)
  deriving DecidableEq

namespace Tag

/-- The stem of the names of the tags that mean something. -/
def stem : String := "tag:yaml.org,2002:"

/-- The names without the stem. -/
def names : List (String × Tag) :=
  [("null", null), ("bool", truth), ("int", integer), ("float", float), ("binary", binary),
   ("timestamp", moment), ("str", text), ("seq", sequence), ("map", mapping),
   ("omap", orderedMapping), ("pairs", pairs), ("set", set), ("merge", merge),
   ("value", default)]

/-- The tag with a name. -/
def ofName (name : String) : Tag :=
  match names.find? fun (short, _) => stem ++ short == name with
  | some (_, tag) => tag
  | none => unknown name

/-- Does a scalar with this tag stand for a value? -/
def isScalar : Tag → Bool
  | null | truth | integer | float | binary | moment | text => true
  | _ => false

example : ofName "tag:yaml.org,2002:int" = integer := by decide +kernel

end Tag
end Yaml
end HttpTap
