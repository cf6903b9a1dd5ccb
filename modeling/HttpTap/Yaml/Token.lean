/-!
# The tokens of a document

A document is cut into tokens before its structure is looked for.  Most tokens are marks that
stand in the text.  Three are not: where indentation opens or closes a collection, a token says
so, and a key that is recognised only by the colon behind it has a token in front.
-/

namespace HttpTap
namespace Yaml

/-- A line that says how the document is to be read. -/
inductive Directive where
  /-- The version of the language. -/
  | version (major minor : Nat)
  /-- What a tag handle stands for. -/
  | handle (name stem : String)
  /-- Any other directive; it says nothing. -/
  | other
  deriving DecidableEq

/-- How a scalar was written: a plain one may stand for more than a text. -/
inductive Style where
  | plain
  | quoted
  deriving DecidableEq

/-- The tokens. -/
inductive Token where
  | directive (d : Directive)
  | documentStart
  | documentEnd
  /-- Deeper indentation opens a sequence. -/
  | blockSequenceStart
  /-- Deeper indentation opens a mapping. -/
  | blockMappingStart
  /-- The indentation of a collection is left. -/
  | blockEnd
  | flowSequenceStart
  | flowSequenceEnd
  | flowMappingStart
  | flowMappingEnd
  /-- The dash in front of an element. -/
  | blockEntry
  /-- The comma between elements. -/
  | flowEntry
  /-- In front of a key. -/
  | key
  /-- The colon between a key and its value. -/
  | value
  | alias (name : String)
  | anchor (name : String)
  | tag (handle : Option String) (suffix : String)
  | scalar (text : String) (style : Style)
  deriving DecidableEq

end Yaml
end HttpTap
