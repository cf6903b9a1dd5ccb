import HttpTap.Capture.Body
import HttpTap.Span.Access

/-!
# Recording bodies

A recorder turns the bodies of requests and responses into attributes.  It has settings, which
say for each direction whether it is recorded, and works in two shapes.

* `beforeSend` and `afterReceive` take an entity and give the attributes to record and the
  entity to keep.
* `onStart` and `onEnd` take a message and a place for attributes; they put the attributes there
  and swap the entity of the message when it was replaced.

The swap comes first.  A sink that fails costs the caller attributes and never the body.
-/

namespace HttpTap

/-- The attributes of one direction. -/
structure BodyKeys where
  body : String
  size : String

/-- The keys for requests. -/
def requestKeys : BodyKeys := ⟨"http.request.body", "http.request.body.size"⟩

/-- The keys for responses. -/
def responseKeys : BodyKeys := ⟨"http.response.body", "http.response.body.size"⟩

/-- The attributes to record for one direction, and the entity to keep. -/
structure RecordResult where
  attributes : List (String × Value)
  entity : Option (Ref Entity)
  replaced : Bool

/-- The attributes of a captured body: its text and its size, or nothing. -/
def bodyAttributes (keys : BodyKeys) : Option CapturedBody → List (String × Value)
  | some b => if b.text = "" then [] else [(keys.body, .text b.text), (keys.size, b.size)]
  | none => []

/-- Where attributes are put. -/
inductive Target where
  | sink (r : Ref Sink)
  | span (r : Ref Span)

namespace Act

/-- The channel of this part. -/
def recorderChannel : String := "capture.recorder"

/-- Put an attribute. -/
def putAttribute (t : Target) (key : String) (v : Value) : Act Unit := do
  match t with
  | .span r => setAttribute r key v
  | .sink r =>
    let s ← view (·.sinks.get r)
    match s.remaining with
    | some 0 => throw (.misuse .runtime "put failed")
    | remaining =>
      let s := { entries := putEntry s.entries key v, remaining := remaining.map (· - 1) }
      change fun w => { w with sinks := w.sinks.set r s }

/-- Put attributes one after the other. -/
def putAttributes (t : Target) (attributes : List (String × Value)) : Act Unit :=
  attributes.forM fun a => putAttribute t a.1 a.2

/-- Capture the entity of one direction. -/
def recordEntity (enabled : Bool) (limit : Int) (keys : BodyKeys) (e : Option (Ref Entity)) :
    Act RecordResult := do
  if enabled then
    let result ← capture limit bufferChunkSize e
    return ⟨bodyAttributes keys result.body, result.entity, result.replaced⟩
  else return ⟨[], e, false⟩

/-- Capture an outgoing entity. -/
def beforeSend (s : CaptureSettings) (e : Option (Ref Entity)) : Act RecordResult :=
  recordEntity s.recordsRequests s.limit requestKeys e

/-- Capture an incoming entity. -/
def afterReceive (s : CaptureSettings) (e : Option (Ref Entity)) : Act RecordResult :=
  recordEntity s.recordsResponses s.limit responseKeys e

/-- Buffer the entity of a response in place, before anything reads it.  Does nothing when
responses are not recorded. -/
def makeResponseRepeatable (s : CaptureSettings) (message : Option (Ref Message)) : Act Unit := do
  match message with
  | none => return
  | some m =>
    if s.recordsResponses then
      attempt
        (do
          match ← messageEntity m with
          | none => return
          | some e =>
            if (← repeatable e).truthy then return
            let result ← makeRepeatable e bufferChunkSize
            if result.replaced then setMessageEntity m (some result.entity))
        fun f => say (.contained recorderChannel "Failed to make response entity repeatable" f)

/-- Record the entity of a message: swap it if it was replaced, then put its attributes. -/
def recordMessage (t : Target) (m : Ref Message) (direction : String)
    (hook : Option (Ref Entity) → Act RecordResult) : Act Unit :=
  attempt
    (do
      let result ← hook (← orNothing (messageEntity m) none)
      if result.replaced then setMessageEntity m result.entity
      putAttributes t result.attributes)
    fun f => say (.contained recorderChannel ("Failed to record " ++ direction ++ " body") f)

/-- A request is about to be sent. -/
def onStart (s : CaptureSettings) (t : Target) (message : Option (Ref Message)) : Act Unit := do
  match message with
  | none => return
  | some m => if s.recordsRequests then recordMessage t m "request" (beforeSend s)

/-- A response has been received. -/
def onEnd (s : CaptureSettings) (t : Target) (message : Option (Ref Message)) : Act Unit := do
  match message with
  | none => return
  | some m => if s.recordsResponses then recordMessage t m "response" (afterReceive s)

end Act
end HttpTap
