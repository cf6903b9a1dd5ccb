import HttpTap.Fault
import HttpTap.Text.Utf8

/-!
# How a document comes in

Reading a settings file ends in one of two kinds of failure.  Most documents that fail are
*malformed*: they break a rule of the language, and whoever asked for the settings treats the file
as empty.  The others fail with an ordinary fault, which is passed on as one: the bytes are no text,
or a scalar stands for no value, such as the thirtieth of February.

## Blocks and portions

Which failure it is depends on what is met first, and a file is not taken in at once.  Its bytes are
decoded in blocks, and its characters are asked for in portions, the first two of them together.
What is wrong with a block or with a portion is met when the portion is asked for, so what is wrong
with the text in front of it has come first.

`Supply` is the text of a document as far as it can be had, with the defect that is met where it
ends too early.
-/

namespace HttpTap
namespace Yaml

/-- Why a document gives no value. -/
inductive Defect where
  /-- The document breaks a rule of the language. -/
  | malformed
  /-- Something in the document stands for no value. -/
  | unbuildable (f : Fault)
  deriving DecidableEq

/-- May the character stand in a document? -/
def isAllowed (c : Char) : Bool :=
  let n := c.toNat
  n == 0x09 || n == 0x0A || n == 0x0D || (0x20 ≤ n && n ≤ 0x7E) || n == 0x85 ||
    (0xA0 ≤ n && n ≤ 0xD7FF) || (0xE000 ≤ n && n ≤ 0xFFFD) || 0x10000 ≤ n

/-- A text with every line break in the one form that ends a line. -/
def plainLines : List Char → List Char
  | '\r' :: '\n' :: cs => '\n' :: plainLines cs
  | '\r' :: cs => '\n' :: plainLines cs
  | c :: cs => c :: plainLines cs
  | [] => []

/-- The lines of a text that goes on.  What ends it may be the first half of a line break. -/
def openLines (cs : List Char) : List Char :=
  plainLines (if cs.getLast? = some '\r' then cs.dropLast else cs)

/-- A text as far as it can be had. -/
structure Supply where
  text : List Char
  /-- What is met behind the text, if that is not the end of the document. -/
  behind : Option Defect

namespace Supply

/-- A document that can be had as a whole. -/
def whole (text : List Char) : Supply := ⟨text, none⟩

/-- The number of characters in a portion. -/
def portion : Nat := 4096

/-- A defect that is met at a place in a text: the portions in front of it can be had. -/
def upTo (place : Nat) (d : Defect) (text : List Char) : Supply :=
  ⟨text.take (if place < 2 * portion then 0 else portion * (place / portion)), some d⟩

/-- What is left of a supply if a character may not stand in a document. -/
def allowed (s : Supply) : Supply :=
  match s.text.findIdx? fun c => !isAllowed c with
  | some place => upTo place .malformed s.text
  | none => s

/-- The size of the next block.  It is more than usual if many characters are wanted and the block
before it has given few characters for its bytes. -/
def blockSize (bytes chars wanted : Nat) : Nat := max 8192 (bytes * wanted / chars)

theorem le_blockSize (bytes chars wanted : Nat) : 8192 ≤ blockSize bytes chars wanted :=
  Nat.le_max_left _ _

/-- The characters in front of the first block that is no text, or of the end if it comes too early.
`taken` bytes have given the characters `front`, and the last block among them has given `chars`
characters for `bytes`. -/
def goodFront (data : Bytes) (taken bytes chars : Nat) (front : List Char) : List Char :=
  if data.length ≤ taken then front
  else
    let next := min data.length
      (taken + blockSize bytes chars (portion - front.length % portion))
    match Text.Utf8.decodeFront? (data.take next) with
    | none => front
    | some cs =>
      let more := openLines cs
      goodFront data next (next - taken) (more.length - front.length) more
termination_by data.length - taken
decreasing_by
  have := le_blockSize bytes chars (portion - front.length % portion)
  omega

/-- What can be had of the document that stands in a file. -/
def ofBytes (data : Bytes) : Supply :=
  allowed <| match Text.Utf8.decodeExact? data with
    | some cs => whole (plainLines cs)
    | none =>
      let front := goodFront data 0 0 0 []
      upTo front.length (.unbuildable .noText) front

end Supply
end Yaml
end HttpTap
