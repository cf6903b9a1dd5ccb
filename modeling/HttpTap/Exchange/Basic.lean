import HttpTap.Exchange.Headers
import HttpTap.Store
import HttpTap.Stream.Source

/-!
# Requests and responses

The objects of the client library, as far as bodies are concerned.  A request carries its body
in one of several forms; a response either holds its content or still has it on the wire.

Bodies that can be read only once (files, one-pass iterators, the raw stream of a response) are
shared objects: whoever reads them takes bytes away from everybody else.
-/

namespace HttpTap

/-- The body of a request. -/
inductive Body where
  /-- No body. -/
  | absent
  | bytes (bs : Bytes)
  /-- Bytes in a buffer that could be changed. -/
  | buffer (bs : Bytes)
  | text (s : String)
  /-- A file, read from where it stands. -/
  | file (source : Ref Source)
  /-- A one-pass iterator. -/
  | iterator (items : Ref (List Item))
  /-- Any other value. -/
  | value (v : Value)

namespace Body

/-- A body from a value; bytes and texts have forms of their own. -/
def ofValue : Value → Body
  | .null => absent
  | .bytes bs => bytes bs
  | .text s => text s
  | v => value v

/-- Can the body be read more than once? -/
def isHeld : Body → Bool
  | bytes _ | buffer _ | text _ => true
  | _ => false

/-- The length of a body that is bytes already. -/
def byteLength? : Body → Option Nat
  | bytes bs | buffer bs => some bs.length
  | _ => none

end Body

/-- A request that is ready to be sent. -/
structure Request where
  method : Option String
  url : Option String
  headers : Option Headers
  body : Body

instance : Inhabited Request := ⟨⟨none, none, none, .absent⟩⟩

/-- The content of a response. -/
inductive Content where
  /-- Still on the wire. -/
  | unread
  /-- Loaded, or put there by somebody. -/
  | held (v : Value)

namespace Content

/-- Content from a value: the false truth value means that nothing was loaded. -/
def ofValue : Value → Content
  | .bool false => unread
  | v => held v

/-- Is the content there? -/
def isHeld : Content → Bool
  | unread => false
  | held _ => true

/-- The content as a value. -/
def toValue : Content → Value
  | unread => .bool false
  | held v => v

/-- Is the content a truth value, so that it cannot be what was read? -/
def isTruthValue : Content → Bool
  | unread => true
  | held (.bool _) => true
  | held _ => false

end Content

/-- A response as the client library hands it out. -/
structure Response where
  status : Value
  headers : Option Headers
  content : Content
  /-- Has the raw stream been read to its end? -/
  consumed : Bool
  raw : Option (Ref Source)

instance : Inhabited Response := ⟨⟨.int 200, none, .unread, false, none⟩⟩

/-- How many bytes of a streamed body are asked for at once. -/
def streamChunkSize : Int := 8192

/-! ## Streams over shared objects -/

/-- What a stream over chunks keeps for itself when its chunks come from a shared object. -/
structure Layer where
  supply : Supply
  pending : Bytes
  closed : Bool

namespace Layer

/-- A layer from which nothing was read yet. -/
def fresh : Layer := ⟨.live, [], false⟩

end Layer

/-- An opened stream. -/
inductive Stream where
  /-- A stream on its own. -/
  | direct (source : Ref Source)
  /-- Over the pieces of a file. -/
  | overFile (file : Ref Source) (layer : Layer)
  /-- Over the items of a one-pass iterator. -/
  | overItems (items : Ref (List Item)) (layer : Layer)
  /-- Over the pieces of the raw stream of a response. -/
  | overResponse (response : Ref Response) (layer : Layer)

instance : Inhabited Stream := ⟨.direct ⟨0⟩⟩

end HttpTap
