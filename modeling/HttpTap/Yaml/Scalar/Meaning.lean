import HttpTap.Number.Reading
import HttpTap.Text.Base64
import HttpTap.Value.Basic
import HttpTap.Yaml.Scalar.Implicit
import HttpTap.Yaml.Supply

/-!
# The value of a scalar

What a scalar stands for is a matter of its tag and its text.  Underscores in numerals count for
nothing.  A tag may also be written out in front of a text that does not fit it, and then the
text is read as far as that goes: the fault that comes of it is passed on.
-/

namespace HttpTap
namespace Yaml
namespace Meaning

/-- The fault for a text that is no number. -/
def noNumber : Fault := .misuse .value "could not read a number"

/-- The fault for a text without the characters that were looked for. -/
def tooShort : Fault := .misuse .index "string index out of range"

/-- The numeral in a base. -/
def numeral (base : Nat) (cs : List Char) : Except Fault Int :=
  match Text.integer? base cs with
  | some n => .ok n
  | none => .error noNumber

/-- An integer without its sign.  A leading zero announces a base; colons separate the digits
to the base sixty. -/
def magnitude : List Char → Except Fault Int
  | [] => .error tooShort
  | ['0'] => .ok 0
  | '0' :: 'b' :: ds => numeral 2 ds
  | '0' :: 'x' :: ds => numeral 16 ds
  | '0' :: ds => numeral 8 ('0' :: ds)
  | cs =>
    if cs.contains ':' then
      ((Implicit.cutAtColons cs).mapM (numeral 10)).map fun ds =>
        ds.foldl (fun n d => 60 * n + d) 0
    else numeral 10 cs

/-- An integer. -/
def integer (text : String) : Except Fault Int :=
  match text.toList.filter (· != '_') with
  | [] => .error tooShort
  | '-' :: cs => (magnitude cs).map fun n => -n
  | '+' :: cs => magnitude cs
  | cs => magnitude cs

/-- A sum of digits to the base sixty, the last one first, rounded at every step. -/
def sexagesimal : Nat → Number.Double → List Number.Double → Number.Double
  | _, sum, [] => sum
  | weight, sum, d :: ds => sexagesimal (60 * weight) (sum.add (d.mulNat weight)) ds

/-- A number with a point, without its sign. -/
def floatMagnitude (cs : List Char) : Except Fault Number.Double :=
  let read (cs : List Char) : Except Fault Number.Double :=
    match Number.double? cs with
    | some x => .ok x
    | none => .error noNumber
  if cs == ".inf".toList then .ok (.infinite false)
  else if cs == ".nan".toList then .ok .nan
  else if cs.contains ':' then
    ((Implicit.cutAtColons cs).mapM read).map fun ds => sexagesimal 1 (.zero false) ds.reverse
  else read cs

/-- A number with a point. -/
def float (text : String) : Except Fault Number.Double :=
  match (Text.small text).toList.filter (· != '_') with
  | [] => .error tooShort
  | '-' :: cs => (floatMagnitude cs).map Number.Double.neg
  | '+' :: cs => floatMagnitude cs
  | cs => floatMagnitude cs

/-- A truth value, in any writing. -/
def truth (text : String) : Except Fault Bool :=
  match Implicit.truths.lookup (Text.small text) with
  | some b => .ok b
  | none => .error (.misuse .key text)

/-- A moment. -/
def moment (text : String) : Except Fault Moment :=
  match Stamp.ofChars? (Implicit.withoutBreak text.toList) with
  | none => .error (.noMember "NoneType" "groupdict")
  | some s =>
    match s.moment? with
    | some t => .ok t
    | none => .error (.misuse .value "no such moment")

/-- Bytes in base 64.  A text that spells none is a defect of the document. -/
def binary (text : String) : Except Defect Value :=
  if text.toList.all (·.toNat < 0x80) then
    match Text.Base64.decode? text.toList with
    | some bs => .ok (.bytes bs)
    | none => .error .malformed
  else .error .malformed

/-- The value of a scalar. -/
def ofScalar (tag : Tag) (text : String) : Except Defect Value :=
  match tag with
  | .null => .ok .null
  | .text => .ok (.text text)
  | .truth => ((truth text).map Value.bool).mapError .unbuildable
  | .integer => ((integer text).map Value.int).mapError .unbuildable
  | .float => ((float text).map Value.float).mapError .unbuildable
  | .moment => ((moment text).map Value.moment).mapError .unbuildable
  | .binary => binary text
  | _ => .error .malformed

end Meaning
end Yaml
end HttpTap
