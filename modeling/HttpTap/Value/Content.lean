import HttpTap.Fault
import HttpTap.Value.Basic

/-!
# Values as content

A foreign stream should give bytes when it is read, and usually does.  Where it gives something
else, two conversions decide what happens.

* A chunk of a chunked body may be anything that spells a byte string: a text (as UTF-8), a
  count (that many zero bytes), a list of small numbers.  This is `toBytes`.
* A buffer accepts bytes and nothing else.  This is `appendable`.

`cost` measures a value for the termination of loops over a stream: an empty value costs
nothing, because it ends the loop, and every other value costs more than the bytes that it
spells.
-/

namespace HttpTap
namespace Value

/-- The word for the type of a value in a message. -/
def typeName : Value → String
  | null => "NoneType"
  | bool _ => "bool"
  | int _ => "int"
  | float _ => "float"
  | text _ => "str"
  | bytes _ => "bytes"
  | list _ => "list"
  | tuple _ => "tuple"
  | set _ => "set"
  | dict _ => "dict"
  | moment (.day ..) => "datetime.date"
  | moment (.time ..) => "datetime.datetime"
  | cycle isMapping => if isMapping then "dict" else "list"

/-! ## Bytes that a value spells -/

/-- One element of a list of small numbers. -/
def toByte (v : Value) : Except Fault UInt8 :=
  match v.integer? with
  | some n =>
    if 0 ≤ n ∧ n < 256 then .ok (UInt8.ofNat n.toNat)
    else .error (.misuse .value "bytes must be in range(0, 256)")
  | none =>
    .error (.misuse .type ("'" ++ v.typeName ++ "' object cannot be interpreted as an integer"))

/-- The bytes of a list of small numbers. -/
def elementBytes (vs : List Value) : Except Fault Bytes := vs.mapM toByte

/-- The number of bytes that can be allocated at once. -/
def maxCount : Int := 1099511627776

/-- The number at which a count is too large to be one. -/
def countLimit : Int := 9223372036854775808

/-- That many zero bytes. -/
def zeroBytes (count : Int) : Except Fault Bytes :=
  if count < 0 then .error (.misuse .value "negative count")
  else if countLimit ≤ count then
    .error (.misuse .overflow "cannot fit 'int' into an index-sized integer")
  else if maxCount < count then .error (.misuse .memory "")
  else .ok (List.replicate count.toNat 0)

/-- The bytes that a value spells. -/
def toBytes : Value → Except Fault Bytes
  | bytes bs => .ok bs
  | text s => .ok (Text.Utf8.encode s)
  | int n => zeroBytes n
  | bool b => .ok (if b then [0] else [])
  | list vs | tuple vs | set vs => elementBytes vs
  | dict es => elementBytes (es.map Prod.fst)
  | v => .error (.misuse .type ("cannot convert '" ++ v.typeName ++ "' object to bytes"))

@[simp] theorem toBytes_bytes (bs : Bytes) : (bytes bs).toBytes = .ok bs := rfl

/-- How many bytes a value spells; a value that spells none counts as zero. -/
def byteCount (v : Value) : Nat :=
  match v.toBytes with
  | .ok bs => bs.length
  | .error _ => 0

@[simp] theorem byteCount_bytes (bs : Bytes) : (bytes bs).byteCount = bs.length := rfl

theorem byteCount_of_toBytes {v : Value} {bs : Bytes} (h : v.toBytes = .ok bs) :
    v.byteCount = bs.length := by
  simp [byteCount, h]

/-! ## What a buffer accepts -/

/-- A value as a piece of a byte buffer. -/
def appendable : Value → Except Fault Bytes
  | bytes bs => .ok bs
  | v => .error (.misuse .type ("can't concat " ++ v.typeName ++ " to bytearray"))

/-! ## The cost of an answer -/

/-- What one answer of a stream costs: nothing if it ends a loop, otherwise one more than the
bytes that it spells. -/
def cost : Except Fault Value → Nat
  | .ok v => if v.truthy then v.byteCount + 1 else 0
  | .error _ => 0

@[simp] theorem cost_error (f : Fault) : cost (.error f) = 0 := rfl

theorem cost_of_not_truthy {v : Value} (h : v.truthy = false) : cost (.ok v) = 0 := by
  simp [cost, h]

theorem cost_of_truthy {v : Value} (h : v.truthy = true) :
    cost (.ok v) = v.byteCount + 1 := by
  simp [cost, h]

/-- An answer in bytes costs at most twice its length. -/
theorem cost_bytes_le (bs : Bytes) : cost (.ok (bytes bs)) ≤ 2 * bs.length := by
  cases bs with
  | nil => rw [cost_of_not_truthy rfl]; exact Nat.zero_le _
  | cons b bs =>
    rw [cost_of_truthy rfl, byteCount_bytes]
    simp only [List.length_cons]
    omega

end Value
end HttpTap
