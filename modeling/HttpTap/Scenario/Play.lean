import HttpTap.Scenario.Command
import HttpTap.Settings.Tree

/-!
# Carrying out a scenario

The stage holds the world, the names, and the surroundings from which instruments load their
settings.  Each command is carried out on the stage that the commands before it have left, also
when some of them failed; a step that failed binds no name.
-/

namespace HttpTap
namespace Scenario

/-- A named object. -/
inductive Thing where
  | stream (r : Ref Stream)
  | entity (r : Ref Entity)
  | recorder (s : CaptureSettings)
  | sink (r : Ref Sink)
  | message (r : Ref Message)
  | request (r : Ref Request)
  | response (r : Ref Response)
  | instrument (r : Ref Instrument)
  | clientModule (r : Ref ClientModule)

/-- Everything that a scenario works on. -/
structure Stage where
  world : World
  names : List (String × Thing)
  surroundings : Surroundings
  /-- The body that was sent in this step. -/
  sent : Option Value
  /-- What was put on the probe in this step. -/
  spanValues : List (String × Value)

/-- The stage before the first step. -/
def Stage.start (directory : String) : Stage :=
  ⟨.empty, [], (Tree.empty directory).surroundings [], none, []⟩

/-- Part of a step. -/
abbrev Play := ExceptT Problem (StateM Stage)

/-- Do something in the world. -/
def act {α : Type} (a : Act α) : Play α := do
  let stage ← get
  let (outcome, world) := Act.go a stage.world
  set { stage with world := world }
  match outcome with
  | .ok x => return x
  | .error f => throw (.fault f)

/-! ## Names -/

/-- Bind a name. -/
def bind_ (name : String) (t : Thing) : Play Unit :=
  modify fun stage => { stage with names := (name, t) :: stage.names.filter (·.1 != name) }

/-- The object with a name. -/
def find (name : String) : Play Thing := do
  match (← get).names.lookup name with
  | some t => return t
  | none => throw .unknownName

/-- The stream with a name. -/
def stream (name : String) : Play (Ref Stream) := do
  match ← find name with
  | .stream r => return r
  | _ => throw .unknownName

/-- The entity with a name. -/
def entity (name : String) : Play (Ref Entity) := do
  match ← find name with
  | .entity r => return r
  | _ => throw .unknownName

/-- The recorder with a name. -/
def recorder (name : String) : Play CaptureSettings := do
  match ← find name with
  | .recorder s => return s
  | _ => throw .unknownName

/-- The sink with a name. -/
def sink (name : String) : Play (Ref Sink) := do
  match ← find name with
  | .sink r => return r
  | _ => throw .unknownName

/-- The message with a name. -/
def message (name : String) : Play (Ref Message) := do
  match ← find name with
  | .message r => return r
  | _ => throw .unknownName

/-- The request with a name. -/
def request (name : String) : Play (Ref Request) := do
  match ← find name with
  | .request r => return r
  | _ => throw .unknownName

/-- The response with a name. -/
def response (name : String) : Play (Ref Response) := do
  match ← find name with
  | .response r => return r
  | _ => throw .unknownName

/-- The instrument with a name. -/
def instrument (name : String) : Play (Ref Instrument) := do
  match ← find name with
  | .instrument r => return r
  | _ => throw .unknownName

/-- The module with a name. -/
def clientModule (name : String) : Play (Ref ClientModule) := do
  match ← find name with
  | .clientModule r => return r
  | _ => throw .unknownName

/-- An object that may be left out. -/
def optionally {α : Type} (f : String → Play α) : Option String → Play (Option α)
  | none => return none
  | some name => return some (← f name)

/-- The name of a stream that has one. -/
def streamName? (names : List (String × Thing)) (r : Ref Stream) : Option String :=
  (names.find? fun e => match e.2 with
    | .stream q => q == r
    | _ => false).map Prod.fst

/-- The name of an entity that has one. -/
def entityName? (names : List (String × Thing)) (r : Ref Entity) : Option String :=
  (names.find? fun e => match e.2 with
    | .entity q => q == r
    | _ => false).map Prod.fst

/-! ## Looking at objects -/

/-- What an entity says about itself: every member is read once. -/
def describe (r : Ref Entity) : Play Description := do
  let repeatable ← act (Act.observe (Act.repeatable r))
  let length ← act (Act.observe (Act.contentLength r))
  let type ← act (Act.observe (Act.contentType r))
  let encoding ← act (Act.observe (Act.contentEncoding r))
  let e ← act (Act.entity r)
  let content := match e with
    | .stored _ bs _ _ => some bs
    | _ => none
  return ⟨e.kindName, repeatable, length, type, encoding, content, e.line?⟩

/-- Which entity it is.  One that has no name yet gets one. -/
def identify (r : Option (Ref Entity)) (as_ : String) : Play EntityAnswer := do
  match r with
  | none => return .none
  | some r =>
    match entityName? (← get).names r with
    | some name => return .known name
    | none =>
      bind_ as_ (.entity r)
      return .fresh (← describe r)

/-- Entries in the order of their keys. -/
def byKey (entries : List (String × Value)) : List (String × Value) :=
  entries.mergeSort fun a b => a.1 ≤ b.1

/-- Headers in the order of their names, case apart. -/
def byName (h : Headers) : List (String × Value) :=
  h.entries.mergeSort fun a b => Text.small a.1 ≤ Text.small b.1

/-- What a sink holds. -/
def sinkEntries (r : Ref Sink) : Play (List (String × Value)) := do
  return byKey ((← get).world.sinks.get r).entries

/-- Look at an object. -/
def look (t : Thing) : Play Answer := do
  let world := (← get).world
  match t with
  | .entity r => return .description (← describe r)
  | .sink r => return .attributes (← sinkEntries r)
  | .request r =>
    let q := world.requests.get r
    return .request q.body (q.headers.map byName)
  | .response r =>
    let p := world.responses.get r
    return .response p.status p.content.toValue p.consumed (p.headers.map byName)
  | _ => throw .unknownName

/-! ## Making objects -/

/-- Make a stream. -/
def makeStream (name : String) : StreamChoice → Play (Ref Stream)
  | .named n => stream n
  | .planned plan => act (Act.openSource (plan.build name))

/-- Make an entity. -/
def makeEntity (id : String) : EntityPlan → Play (Ref Entity)
  | .bytes data given => do
    let given ← act (.lift (given.among ["content_type", "content_encoding"]))
    act (Act.newEntity (.ofBytes data (given.get "content_type" .null)
      (given.get "content_encoding" .null)))
  | .text data given => do
    let given ← act (.lift (given.among ["content_type"]))
    act (Act.newEntity (.ofText data (given.get "content_type" Entity.textType)))
  | .stream choice given => do
    let s ← makeStream (id ++ "~") choice
    let given ← act (.lift
      (given.among ["content_length", "content_type", "content_encoding"]))
    act (Act.newEntity (.once s false (given.get "content_length" (.int unknownLength))
      (given.get "content_type" .null) (given.get "content_encoding" .null)))
  | .scripted repeatable length type encoding contents =>
    act (Act.newEntity (.scripted ⟨id, repeatable, length, type, encoding, contents, 0⟩))

/-- Make a message. -/
def makeMessage : MessagePlan → Play (Ref Message)
  | .plain e status => do act (Act.newMessage (.plain (← optionally entity e) status))
  | .readOnly e status => do act (Act.newMessage (.readOnly (← optionally entity e) status))
  | .broken f status => act (Act.newMessage (.broken f status))
  | .bare status => act (Act.newMessage (.bare status))
  | .request q => do act (Act.newMessage (.request (← optionally request q)))
  | .response p => do act (Act.newMessage (.response (← optionally response p)))

/-- Make the body of a request. -/
def makeBody (id : String) : BodyPlan → Play Body
  | .given b => return b
  | .file plan => return .file (← act (Act.newSource (plan.build (id ++ "~"))))
  | .iterator items => do
    return .iterator (← act (Act.ofRun fun w =>
      let (r, iterators) := w.iterators.alloc (generated items)
      (.ok r, { w with iterators := iterators })))

/-- Make settings. -/
def makeSettings (given : Named) : Play CaptureSettings :=
  act (.lift (CaptureSettings.ofNamed given))

/-- The settings of an instrument: given, or loaded from the surroundings. -/
def instrumentSettings : Option Named → Play CaptureSettings
  | some given => makeSettings given
  | none => do
    let (log, outcome) := Settings.runNoted (Settings.load .nothing (← get).surroundings)
    act (log.forM Act.say)
    act (.lift outcome)

/-! ## Handlers and sending -/

/-- One full read of the content of a message. -/
def readMessage (m : Option (Ref Message)) : Act Value := do
  match m with
  | none => throw (.noMember "NoneType" "entity")
  | some m =>
    match ← Act.messageEntity m with
    | none => throw (.noMember "NoneType" "get_content")
    | some e => Act.readStream (← Act.openContent e) (-1)

/-- A handler: it notes who is at work, and then does what it was told. -/
def handlerAct (m : Option (Ref Message)) (plan : HandlerPlan) : Act Answer := do
  Act.note (.handler (← Act.view (·.context)).who)
  match plan with
  | .done => return .name "handled"
  | .fails f => throw f
  | .reads n => return .contents (← (List.range n).mapM fun _ => readMessage m)

/-- The name of the caller's surroundings. -/
def caller : Context := ⟨some "caller", none⟩

/-- Handle a response under a probe. -/
def handle (s : CaptureSettings) (m : Option (Ref Message)) (parent : Option String)
    (plan : HandlerPlan) (failing : List SpanMethod) : Play Answer := do
  let span ← act (Act.ofRun fun w =>
    let (r, spans) := w.spans.alloc (.probe ⟨failing, []⟩)
    (.ok r, { w with spans := spans }))
  let parent := parent.map fun who => (⟨some who, none⟩ : Context)
  let outcome ← act (Act.observe (Act.within caller do
    let outcome ← Act.observe (Act.handleResponse s span parent m (handlerAct m plan))
    Act.note (.after (← Act.view (·.context)).who)
    Act.lift outcome))
  modify fun stage => { stage with
    spanValues := match stage.world.spans.get span with
      | .probe p => p.values.reverse
      | .live _ => [] }
  act (.lift outcome)

/-- A piece of a body on its way out: texts become bytes. -/
def outgoing : Value → Value
  | .text s => .bytes (Text.Utf8.encode s)
  | v => v

/-- The items of an iterator up to its end or its first fault, and what comes after the fault. -/
def upToFault : List Item → Except Fault (List Value) × List Item
  | [] => (.ok [], [])
  | .ok v :: is => ((upToFault is).1.map (v :: ·), (upToFault is).2)
  | .error f :: is => (.error f, is)

/-- The pieces of an iterator.  If it fails, it is left where it goes on. -/
def takeItems (r : Ref (List Item)) : Act (List Value) := do
  let (pieces, rest) := upToFault (← Act.view (·.iterators.get r))
  Act.change fun w => { w with iterators := w.iterators.set r rest }
  Act.lift pieces

/-- Read a whole body, as it goes out. -/
def readOut : Body → Act Value
  | .absent => return .null
  | .bytes bs | .buffer bs => return .bytes bs
  | .text s => return .text s
  | .file source => do
    let (vs, fault) ← Act.ofRun fun w =>
      let (result, w) := w.onSource source fun reader s =>
        let (vs, fault, rest) := reader.pieces streamChunkSize s
        ((vs, fault), rest)
      (.ok result, w)
    match fault with
    | some f => throw f
    | none => return .bytes (← Act.lift (joinPieces (vs.map outgoing)))
  | .iterator items => do
    return .bytes (← Act.lift (joinPieces ((← takeItems items).map outgoing)))
  | .value v => do
    let items ← Act.lift (iterate v)
    return .bytes (← Act.lift (do joinPieces ((← items.mapM id).map outgoing)))

/-- The text of the current span. -/
def currentText : Act String := do return (← Act.currentSpan).getD "-"

/-- The bare function: it notes its surroundings, reads the body, and ends as planned.  Its
arguments are a text and whether the response is streamed; sessions do not differ. -/
def bareSend (plan : Except Fault (Option (Ref Response))) (sent : Ref Sink) :
    Act.Sending Unit (String × Bool) := fun _ q (arguments, streamed) => do
  Act.note (.sent arguments (← currentText))
  let request ← Act.view (·.requests.get q)
  let body ← readOut request.body
  Act.change fun w => { w with sinks := w.sinks.set sent ⟨[("sent", body)], none⟩ }
  let p ← Act.lift plan
  match p with
  | some r => if streamed then return p else let _ ← Act.loadContent r; return p
  | none => return p

/-- Send a request through a module. -/
def send (q : Ref Request) (m : Ref ClientModule)
    (plan : Except Fault (Option (Ref Response))) (arguments : String) (streamed : Bool)
    (parent : Option (Ref Instrument × String)) : Play (Option (Ref Response)) := do
  let sent ← act (Act.ofRun fun w =>
    let (r, sinks) := w.sinks.alloc ⟨[], none⟩
    (.ok r, { w with sinks := sinks }))
  let present ← act (Act.view (·.context))
  let around ← match parent with
    | none => pure present
    | some (i, name) => do
      let i ← act (Act.view (·.instruments.get i))
      let span ← act (Act.startSpan i.provider name false [])
      pure { present with span := some span }
  let outcome ← act (Act.observe (Act.within around do
    let outcome ← Act.observe do
      match (← Act.view (·.modules.get m)).sender with
      | none => throw (.noMember "module" "Session")
      | some s => Act.sendBy (bareSend plan sent) s () q (arguments, streamed)
    Act.note (.afterSend (← currentText))
    Act.lift outcome))
  modify fun stage => { stage with sent := (stage.world.sinks.get sent).entries.lookup "sent" }
  act (.lift outcome)

/-- Do the sessions of a module send by its own function? -/
def sendsByItself (m : Ref ClientModule) : Play (Option Bool) := do
  match ((← get).world.modules.get m).sender with
  | none => return none
  | some .bare => return some true
  | some (.wrapped ..) => return some false

/-- The name of a response that has one. -/
def responseName? (names : List (String × Thing)) (r : Ref Response) : Option String :=
  (names.find? fun e => match e.2 with
    | .response q => q == r
    | _ => false).map Prod.fst

/-! ## One command -/

/-- Carry out a command. -/
def perform : Command → Play Answer
  | .stream id plan => do
    bind_ id (.stream (← act (Act.openSource (plan.build id))))
    return .nothing
  | .openContent e as_ => do
    let r ← act (Act.openContent (← entity e))
    match streamName? (← get).names r with
    | some name => return .name name
    | none =>
      bind_ as_ (.stream r)
      return .name as_
  | .read s size => do return .value (← act (Act.readStream (← stream s) size))
  | .readInto s size => do
    let r ← stream s
    if ← act (Act.view (·.isStandIn r)) then act (throw (.noMember "stream" "readinto"))
    let (count, buffer) ←
      act (Act.useStream r fun reader => reader.readInto (List.replicate size 0x2E))
    return .copied count buffer
  | .close s => do
    act (Act.closeStream (← stream s))
    return .nothing
  | .readable s => do
    let r ← stream s
    if ← act (Act.view (·.isStandIn r)) then act (throw (.noMember "stream" "readable"))
    return .flag true
  | .closed s => do
    let r ← stream s
    return .flag ((← get).world.isClosed r)
  | .readBounded s limit chunk => do
    return .bounded (← act (Act.readBounded (← stream s) limit chunk))
  | .entity id plan => do
    let r ← makeEntity id plan
    bind_ id (.entity r)
    match plan with
    | .scripted .. => return .nothing
    | _ => return .description (← describe r)
  | .capture e settings chunk as_ => do
    let e ← optionally entity e
    let s ← makeSettings settings
    let result ← act (Act.capture s.limit chunk e)
    return .captured result.body (← identify result.entity as_) result.replaced s.limit
  | .makeRepeatable e chunk as_ => do
    let result ← act (Act.makeRepeatable (← entity e) chunk)
    return .repeatable (← identify (some result.entity) as_) result.bytesRead result.replaced
  | .recorder id settings => do
    let s ← makeSettings settings
    bind_ id (.recorder s)
    return .settings s
  | .beforeSend k e as_ => do
    let result ← act (Act.beforeSend (← recorder k) (← optionally entity e))
    return .recorded (byKey result.attributes) (← identify result.entity as_) result.replaced
  | .afterReceive k e as_ => do
    let result ← act (Act.afterReceive (← recorder k) (← optionally entity e))
    return .recorded (byKey result.attributes) (← identify result.entity as_) result.replaced
  | .sink id failAfter => do
    bind_ id (.sink (← act (Act.ofRun fun w =>
      let (r, sinks) := w.sinks.alloc ⟨[], failAfter⟩
      (.ok r, { w with sinks := sinks }))))
    return .nothing
  | .message id plan => do
    bind_ id (.message (← makeMessage plan))
    return .nothing
  | .onStart k d m => do
    let target ← sink d
    act (Act.onStart (← recorder k) (.sink target) (← optionally message m))
    return .attributes (← sinkEntries target)
  | .onEnd k d m => do
    let target ← sink d
    act (Act.onEnd (← recorder k) (.sink target) (← optionally message m))
    return .attributes (← sinkEntries target)
  | .makeResponseRepeatable k m => do
    act (Act.makeResponseRepeatable (← recorder k) (← optionally message m))
    return .nothing
  | .entityOf m as_ => do
    match ← act (Act.observe (Act.messageEntity (← message m))) with
    | .ok e => return .entity (← identify e as_)
    | .error f => return .failed f
  | .setEntity m e => do
    act (Act.setMessageEntity (← message m) (← optionally entity e))
    return .nothing
  | .showObject id => do look (← find id)
  | .handle k m parent plan failing => do
    handle (← recorder k) (← optionally message m) parent plan failing
  | .request id method url headers body => do
    let q : Request := ⟨method, url, headers, ← makeBody id body⟩
    let r ← act (Act.ofRun fun w =>
      let (r, requests) := w.requests.alloc q
      (.ok r, { w with requests := requests }))
    bind_ id (.request r)
    look (.request r)
  | .response id status headers content consumed raw => do
    let raw ← match raw with
      | none => pure none
      | some plan => do pure (some (← act (Act.newSource (plan.build (id ++ "~")))))
    let p : Response := ⟨status, headers, content, consumed, raw⟩
    let r ← act (Act.ofRun fun w =>
      let (r, responses) := w.responses.alloc p
      (.ok r, { w with responses := responses }))
    bind_ id (.response r)
    look (.response r)
  | .content p => do return .value (← act (Act.loadContent (← response p)))
  | .contentPieces p size => do return .values (← act (Act.contentPieces (← response p) size))
  | .instrument id settings bindings provider => do
    modify fun stage => { stage with
      surroundings := bindings.foldl (fun s v => s.setVariable v.1 v.2) stage.surroundings }
    let s ← instrumentSettings settings
    bind_ id (.instrument (← act (Act.newInstrument ⟨s, provider⟩)))
    return .instrument s
  | .clientModule id hasSession => do
    bind_ id (.clientModule (← act (Act.ofRun fun w =>
      let (r, modules) := w.modules.alloc ⟨if hasSession then some .bare else none⟩
      (.ok r, { w with modules := modules }))))
    return .nothing
  | .patch i m => do
    let m ← clientModule m
    act (Act.wrapModule (← instrument i) m)
    return .optionalFlag (← sendsByItself m)
  | .unpatch i m => do
    let m ← clientModule m
    act (Act.unwrapModule (← instrument i) m)
    return .optionalFlag (← sendsByItself m)
  | .send q m plan arguments streamed parent => do
    let q ← request q
    let m ← clientModule m
    let plan ← match plan with
      | .fails f => pure (.error f)
      | .response name => do pure (.ok (← optionally response name))
    let parent ← match parent with
      | none => pure none
      | some (i, name) => do pure (some (← instrument i, name))
    match ← send q m plan arguments streamed parent with
    | none => return .optionalName none
    | some r => return .optionalName (responseName? (← get).names r)

/-! ## Steps -/

/-- The span behind a reference, if it records. -/
def liveSpan? (w : World) (r : Ref Span) : Option LiveSpan :=
  match w.spans.get r with
  | .live s => some { s with attributes := byKey s.attributes }
  | .probe _ => none

/-- Carry out one command and collect what is known of the step. -/
def step (stage : Stage) (c : Command) : Record × Stage :=
  let world := { stage.world with trace := [], log := [], finished := [], started := 0 }
  let (outcome, stage) := (perform c).run { stage with world := world, sent := none, spanValues := [] }
  ({ outcome := outcome
     log := stage.world.log.reverse
     trace := stage.world.trace.reverse
     spanValues := stage.spanValues
     sent := stage.sent
     started := stage.world.started
     finished := stage.world.finished.reverse.filterMap (liveSpan? stage.world) }, stage)

/-- Carry out a scenario. -/
def run (stage : Stage) : List Command → List Record
  | [] => []
  | c :: cs =>
    let (record, stage) := step stage c
    record :: run stage cs

end Scenario
end HttpTap
