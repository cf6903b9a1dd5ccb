import HttpTap.Entity.Access

/-!
# The entity of a message

Reading the entity of a request or a response of the client library adapts what the object
carries at that moment; each reading makes a new entity.  Assigning one installs its bytes, so
that every later reader finds them all.

Installing a body goes in three steps: the body itself, the header that would announce chunks,
the header that declares the length.  When a step fails the earlier ones stand.
-/

namespace HttpTap
namespace Act

/-- The entity of a request: the body that it has now, with the headers that describe it. -/
def requestEntity (q : Ref Request) : Act (Option (Ref Entity)) := do
  let request ← view (·.requests.get q)
  match request.body with
  | .absent => return none
  | body =>
    match request.headers with
    | none => throw (.noMember "NoneType" "get")
    | some h =>
      return some (← newEntity (.requestBody q body (h.lookup typeHeader) (h.lookup encodingHeader)))

/-- The entity of a response. -/
def responseEntity (p : Ref Response) : Act (Option (Ref Entity)) := do
  let response ← view (·.responses.get p)
  match response.headers with
  | none => throw (.noMember "NoneType" "get")
  | some h =>
    return some (← newEntity (.responseBody p (h.lookup typeHeader) (h.lookup encodingHeader)))

/-- The entity of a message. -/
def messageEntity (m : Ref Message) : Act (Option (Ref Entity)) := do
  match ← view (·.messages.get m) with
  | .plain e _ | .readOnly e _ => return e
  | .broken f _ => throw f
  | .bare _ => throw (.noMember "message" "entity")
  | .request none => throw (.noMember "NoneType" "body")
  | .request (some q) => requestEntity q
  | .response none => throw (.noMember "NoneType" "headers")
  | .response (some p) => responseEntity p

/-- A member, or nothing if the object says that it has no such member. -/
def orNothing {α : Type} (a : Act α) (nothing : α) : Act α := do
  match ← observe a with
  | .ok x => return x
  | .error f => if f.kind = .member then return nothing else throw f

/-- The status of a message, as far as it has one. -/
def messageStatus (m : Ref Message) : Act Value := do
  match ← view (·.messages.get m) with
  | .plain _ s | .readOnly _ s | .broken _ s | .bare s =>
    match s with
    | some item => orNothing (lift item) .null
    | none => return .null
  | .request _ | .response none => return .null
  | .response (some p) => return (← view (·.responses.get p)).status

/-! ## Installing an entity -/

/-- A stream can be entered unless it is closed; a stand-in does not look. -/
def enterStream (r : Ref Stream) : Act Unit := do
  if ← view (fun w => w.isClosed r && !w.isStandIn r) then throw .closedStream

/-- All bytes of an entity, or whatever one read of its stream gives. -/
def entityBytes (e : Ref Entity) : Act Value := do
  match ← entity e with
  | .stored _ bs _ _ => return .bytes bs
  | _ =>
    let r ← openContent e
    enterStream r
    ensuring (readStream r (-1)) (closeStream r)

/-- Change a request. -/
def changeRequest (q : Ref Request) (f : Request → Request) : Act Unit :=
  change fun w => { w with requests := w.requests.set q (f (w.requests.get q)) }

/-- Change a response. -/
def changeResponse (p : Ref Response) (f : Response → Response) : Act Unit :=
  change fun w => { w with responses := w.responses.set p (f (w.responses.get p)) }

/-- Change the headers of a request, which must have some. -/
def changeHeaders (q : Ref Request) (f : Headers → Headers) : Act Unit := do
  match (← view (·.requests.get q)).headers with
  | none => throw (.noMember "NoneType" "pop")
  | some h => changeRequest q fun r => { r with headers := some (f h) }

/-- Install bytes as the body of a request. -/
def installBody (q : Option (Ref Request)) (body : Value) : Act Unit := do
  match q with
  | none => throw (.noMember "NoneType" "body")
  | some q =>
    changeRequest q fun r => { r with body := .ofValue body }
    changeHeaders q (·.erase transferHeader)
    let n ← lift (requireLength body)
    changeHeaders q (·.insert lengthHeader (.text (toString n)))

/-- Install bytes as the content of a response. -/
def installContent (p : Option (Ref Response)) (content : Value) : Act Unit := do
  match p with
  | none => throw (.noMember "NoneType" "_content")
  | some p =>
    changeResponse p fun r => { r with content := .ofValue content, consumed := true }

/-- Assign an entity to a message. -/
def setMessageEntity (m : Ref Message) (e : Option (Ref Entity)) : Act Unit := do
  match ← view (·.messages.get m) with
  | .plain _ status | .bare status =>
    change fun w => { w with messages := w.messages.set m (.plain e status) }
  | .readOnly .. | .broken .. => throw (.readOnly "entity")
  | .request q =>
    match e with
    | none => return
    | some e => installBody q (← entityBytes e)
  | .response p =>
    match e with
    | none => return
    | some e => installContent p (← entityBytes e)

end Act
end HttpTap
