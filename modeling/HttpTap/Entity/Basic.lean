import HttpTap.Exchange.Basic
import HttpTap.Stream.Plan

/-!
# Entities and messages

An *entity* is the payload of a message: it has a declared length, a type and an encoding, it
says whether its content can be opened more than once, and it opens its content as a stream.  A
*message* is a request or a response that owns an entity, which may be swapped for another one.

The members of an entity need not be what they should be.  A foreign entity may raise when its
length is read, or say one thing now and another thing later; `Readings` scripts that.
-/

namespace HttpTap

/-- What successive readings of a member give.  The last one repeats for ever. -/
structure Readings where
  items : List Item

namespace Readings

/-- A member that always has the same value. -/
def always (v : Value) : Readings := ⟨[.ok v]⟩

/-- One reading. -/
def next : Readings → Item × Readings
  | ⟨[]⟩ => (.ok .null, ⟨[]⟩)
  | ⟨[i]⟩ => (i, ⟨[i]⟩)
  | ⟨i :: j :: is⟩ => (i, ⟨j :: is⟩)

end Readings

/-- An entity stand-in: scripts for its members, and what each opening of its content gives. -/
structure EntityScript where
  name : String
  repeatable : Readings
  length : Readings
  type : Readings
  encoding : Readings
  /-- What successive openings give.  The last one repeats for ever. -/
  contents : List (Except Fault StreamPlan)
  /-- How often the content was opened. -/
  opened : Nat

namespace EntityScript

/-- What the next opening gives. -/
def nextContent (s : EntityScript) : Except Fault StreamPlan :=
  match s.contents with
  | [] => .ok .nothing
  | c :: _ => c

/-- The script after an opening. -/
def afterOpening (s : EntityScript) : EntityScript :=
  let contents := match s.contents with
    | [] => []
    | [c] => [c]
    | _ :: cs => cs
  { s with contents := contents, opened := s.opened + 1 }

end EntityScript

/-- A payload. -/
inductive Entity where
  /-- Bytes in memory.  `isText` tells an entity that was made from a text. -/
  | stored (isText : Bool) (content : Bytes) (type encoding : Value)
  /-- A stream that can be handed out once. -/
  | once (stream : Ref Stream) (consumed : Bool) (length type encoding : Value)
  /-- The body that a request had when the entity was made. -/
  | requestBody (request : Ref Request) (body : Body) (type encoding : Value)
  /-- The content of a response. -/
  | responseBody (response : Ref Response) (type encoding : Value)
  /-- A stand-in. -/
  | scripted (script : EntityScript)

instance : Inhabited Entity := ⟨.stored false [] .null .null⟩

namespace Entity

/-- Bytes in memory, without further description. -/
def ofBytes (bs : Bytes) (type encoding : Value) : Entity := stored false bs type encoding

/-- The type of an entity made from a text, unless another one is given. -/
def textType : Value := .text "text/plain; charset=utf-8"

/-- The bytes of a text in memory. -/
def ofText (s : String) (type : Value) : Entity := stored true (Text.Utf8.encode s) type .null

/-- The name of the kind of entity. -/
def kindName : Entity → String
  | stored false .. => "ByteArrayEntity"
  | stored true .. => "StringEntity"
  | once .. => "InputStreamEntity"
  | requestBody .. => "PreparedRequestEntity"
  | responseBody .. => "ResponseEntity"
  | scripted .. => "custom"

/-- The entity in one line, for the kinds that have such a line. -/
def line? (e : Entity) : Option String :=
  match e with
  | stored _ bs type _ =>
    type.literal?.map fun t =>
      e.kindName ++ "(length=" ++ toString bs.length ++ ", content_type=" ++ t ++ ")"
  | once _ consumed length _ _ =>
    length.display?.map fun n =>
      e.kindName ++ "(length=" ++ n ++ ", consumed=" ++
        (if consumed then "True" else "False") ++ ")"
  | _ => none

end Entity

/-! ## Messages -/

/-- A message. -/
inductive Message where
  /-- Owns an entity, which can be swapped. -/
  | plain (entity : Option (Ref Entity)) (status : Option Item)
  /-- Owns an entity, which cannot be swapped. -/
  | readOnly (entity : Option (Ref Entity)) (status : Option Item)
  /-- Fails when its entity is asked for. -/
  | broken (fault : Fault) (status : Option Item)
  /-- Has no entity member at all. -/
  | bare (status : Option Item)
  /-- A request of the client library, if there is one. -/
  | request (request : Option (Ref Request))
  /-- A response of the client library, if there is one. -/
  | response (response : Option (Ref Response))

instance : Inhabited Message := ⟨.bare none⟩

end HttpTap
