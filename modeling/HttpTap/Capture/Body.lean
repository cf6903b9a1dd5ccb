import HttpTap.Capture.Repeatable
import HttpTap.Text.Utf8

/-!
# Capturing a body

A capture reads at most `limit` bytes of an entity and makes text of them.  When the body goes on
beyond them, a torn character at the end is dropped and a marker says that there was more.  An
entity that can be read only once is buffered first; the buffered copy is handed back, and the
caller is expected to put it in the place of the entity that was read.

Three lengths are known about a body at different times: the one that the entity declares, the
one that was observed while it was buffered, and the number of bytes kept.  The size that is
recorded is the first of them that is known.

A capture never fails on account of the entity.  What goes wrong while it is prepared gives back
the entity that was handed in, in the state that it was left in; what goes wrong while it is read
gives no body.
-/

namespace HttpTap

/-- What follows the text of a body that was cut. -/
def truncationMarker : String := "... (truncated)"

/-- The text of captured bytes. -/
def decodeBody (bs : Bytes) (cut : Bool) : String := String.ofList (Text.Utf8.decode bs cut)

/-- The text of captured bytes, with the marker if the body goes on. -/
def capturedText (bs : Bytes) (cut : Bool) : String :=
  let text := decodeBody bs cut
  if cut then text ++ truncationMarker else text

/-- The bounded text of an entity.  The size is that of the whole payload as far as known, and
larger than the text whenever it was cut. -/
structure CapturedBody where
  text : String
  size : Value
  truncated : Bool

/-- The outcome of a capture.  The entity is the one that the caller must keep; it is a buffered
copy when `replaced` says so. -/
structure CaptureResult where
  body : Option CapturedBody
  entity : Option (Ref Entity)
  replaced : Bool

/-- An entity that is ready to be read: the length it declares, the length observed while it was
buffered, and whether it is a replacement. -/
structure Prepared where
  entity : Ref Entity
  declared : Value
  observed : Option Nat
  replaced : Bool

/-- The size of a body: declared, else observed, else what was kept. -/
def bodySize (declared : Value) (observed : Option Nat) (kept : Nat) : Except Fault Value := do
  if ← declared.reaches 0 then return declared
  else return .int (observed.getD kept)

/-- A body from what a bounded read gave.  No bytes, no body. -/
def capturedBody (limit : Int) (declared : Value) (observed : Option Nat) (read : BoundedRead) :
    Except Fault (Option CapturedBody) := do
  if read.data.isEmpty then return none
  let cut ← if read.more then pure true else declared.exceeds limit
  let size ← bodySize declared observed read.data.length
  return some ⟨capturedText read.data cut, size, cut⟩

namespace Act

/-- The channel of this part. -/
def captureChannel : String := "capture.body_capture"

/-- Get an entity ready: nothing if it declares itself empty, else buffered if need be. -/
def prepareEntity (e : Ref Entity) (chunk : Int) : Act (Option Prepared) := do
  let declared ← contentLength e
  if declared.equalsInt 0 then return none
  if (← repeatable e).truthy then return some ⟨e, declared, none, false⟩
  let result ← makeRepeatable e chunk
  return some ⟨result.entity, declared, if result.replaced then some result.bytesRead else none,
    result.replaced⟩

/-- Read a prepared entity. -/
def readBody (limit : Int) (p : Prepared) : Act (Option CapturedBody) :=
  attempt
    (do
      let read ← closing (openContent p.entity) fun r => readBounded r limit readChunkSize
      lift (capturedBody limit p.declared p.observed read))
    fun f => do
      say (.contained captureChannel "Failed to capture entity content" f)
      return none

/-- Capture the body of an entity. -/
def capture (limit chunk : Int) (entity : Option (Ref Entity)) : Act CaptureResult := do
  match entity with
  | none => return ⟨none, none, false⟩
  | some e =>
    let prepared ← attempt (prepareEntity e chunk) fun f => do
      say (.contained captureChannel "Failed to prepare entity for capture" f)
      return none
    match prepared with
    | none => return ⟨none, some e, false⟩
    | some p => return ⟨← readBody limit p, some p.entity, p.replaced⟩

end Act
end HttpTap
