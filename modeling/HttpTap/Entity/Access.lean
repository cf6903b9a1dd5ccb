import HttpTap.World.Streams

/-!
# The members of an entity

Reading a member of an entity may fail and may change the world: a stand-in moves on in its
script, and a request or a response is looked at as it is now, not as it was when the entity was
made.

## Lengths

The body of a request has the length that its headers declare, or its own if it is bytes.  The
content of a response that is still on the wire has the declared length, unless it is packed:
then the declared length is the packed size and says nothing.  Once loaded it has at least the
length that it has.

## Opening

Stored bytes and loaded content open as often as one likes.  A stream that is handed out once is
gone afterwards.  Files, iterators and raw streams open again and again, each time from where
the last reader left them.
-/

namespace HttpTap

/-- Is the content packed, so that what is read is not what was sent? -/
def isPacked (encoding : Value) : Except Fault Bool :=
  if encoding.truthy then
    match encoding with
    | .text s =>
      let word := Text.small (Text.trimmed s)
      .ok (word != "" && word != "identity")
    | .bytes _ => .ok true
    | v => .error (.noMember v.typeName "strip")
  else .ok false

/-- The length of a value that must have one. -/
def requireLength (v : Value) : Except Fault Nat :=
  match v.length? with
  | some n => .ok n
  | none =>
    .error (.misuse .type ("object of type '" ++ v.typeName ++ "' has no len()"))

/-- The items of a value that can be gone through. -/
def iterate : Value → Except Fault (List Item)
  | .list vs | .tuple vs | .set vs => .ok (vs.map .ok)
  | .dict es => .ok (es.map fun e => .ok e.1)
  | v => .error (.misuse .type ("'" ++ v.typeName ++ "' object is not iterable"))

/-- The length of the body of a request. -/
def requestLength (headers : Option Headers) (body : Body) : Except Fault Int := do
  let declared ← declaredLength headers
  if declared = unknownLength then
    return match body.byteLength? with
      | some n => n
      | none => unknownLength
  else return declared

/-- The length of the content of a response. -/
def responseLength (response : Response) (encoding : Value) : Except Fault Int := do
  match response.content with
  | .unread =>
    if ← isPacked encoding then return unknownLength else declaredLength response.headers
  | .held v =>
    if v.truthy then
      if ← isPacked encoding then return (← requireLength v)
      let declared ← declaredLength response.headers
      if declared = unknownLength then return (← requireLength v) else return declared
    else return 0

namespace Act

/-- An entity as it is now. -/
def entity (r : Ref Entity) : Act Entity := view (·.entities.get r)

/-- Put an entity in the place of another one. -/
def setEntity (r : Ref Entity) (e : Entity) : Act Unit :=
  change fun w => { w with entities := w.entities.set r e }

/-- A new entity. -/
def newEntity (e : Entity) : Act (Ref Entity) :=
  ofRun fun w =>
    let (r, entities) := w.entities.alloc e
    (.ok r, { w with entities := entities })

/-- Read a member of a stand-in. -/
def readMember (r : Ref Entity) (s : EntityScript) (member : EntityScript → Readings)
    (update : EntityScript → Readings → EntityScript) : Act Value := do
  let (item, rest) := (member s).next
  setEntity r (.scripted (update s rest))
  lift item

/-- The declared length of an entity. -/
def contentLength (r : Ref Entity) : Act Value := do
  match ← entity r with
  | .stored _ bs _ _ => return .int bs.length
  | .once _ _ length _ _ => return length
  | .requestBody request body _ _ =>
    let q ← view (·.requests.get request)
    return .int (← lift (requestLength q.headers body))
  | .responseBody response _ encoding =>
    let p ← view (·.responses.get response)
    return .int (← lift (responseLength p encoding))
  | .scripted s => readMember r s (·.length) fun s m => { s with length := m }

/-- May the content be opened more than once? -/
def repeatable (r : Ref Entity) : Act Value := do
  match ← entity r with
  | .stored .. => return .bool true
  | .once .. => return .bool false
  | .requestBody _ body _ _ => return .bool body.isHeld
  | .responseBody response _ _ =>
    return .bool (← view (·.responses.get response)).content.isHeld
  | .scripted s => readMember r s (·.repeatable) fun s m => { s with repeatable := m }

/-- The type of the content. -/
def contentType (r : Ref Entity) : Act Value := do
  match ← entity r with
  | .stored _ _ type _ | .once _ _ _ type _ | .requestBody _ _ type _ | .responseBody _ type _ =>
    return type
  | .scripted s => readMember r s (·.type) fun s m => { s with type := m }

/-- The encoding of the content. -/
def contentEncoding (r : Ref Entity) : Act Value := do
  match ← entity r with
  | .stored _ _ _ encoding | .once _ _ _ _ encoding | .requestBody _ _ _ encoding
  | .responseBody _ _ encoding => return encoding
  | .scripted s => readMember r s (·.encoding) fun s m => { s with encoding := m }

/-! ## Opening -/

/-- Open the body of a request. -/
def openBody : Body → Act (Ref Stream)
  | .bytes bs | .buffer bs => openSource (.ofBytes bs)
  | .text s => openSource (.ofBytes (Text.Utf8.encode s))
  | .file source => newStream (.overFile source .fresh)
  | .iterator items => newStream (.overItems items .fresh)
  | .value v => do openSource (.ofItems (← lift (iterate v)))
  | .absent => do openSource (.ofItems (← lift (iterate .null)))

/-- Open the content of a response. -/
def openResponse (response : Ref Response) : Act (Ref Stream) := do
  let p ← view (·.responses.get response)
  match p.content with
  | .held v =>
    if v.truthy then
      match v with
      | .bytes bs => openSource (.ofBytes bs)
      | v =>
        throw (.misuse .type ("a bytes-like object is required, not '" ++ v.typeName ++ "'"))
    else openSource (.ofBytes [])
  | .unread =>
    if p.consumed then throw (.misuse .streamConsumed "")
    else newStream (.overResponse response .fresh)

/-- Open the content of an entity. -/
def openContent (r : Ref Entity) : Act (Ref Stream) := do
  match ← entity r with
  | .stored _ bs _ _ => openSource (.ofBytes bs)
  | .once stream consumed length type encoding =>
    if consumed then throw .contentConsumed
    setEntity r (.once stream true length type encoding)
    return stream
  | .requestBody _ body _ _ => openBody body
  | .responseBody response _ _ => openResponse response
  | .scripted s =>
    note (.opened s.name s.opened)
    setEntity r (.scripted s.afterOpening)
    let plan ← lift s.nextContent
    openSource (plan.build (s.name ++ "#" ++ toString s.opened))

end Act
end HttpTap
