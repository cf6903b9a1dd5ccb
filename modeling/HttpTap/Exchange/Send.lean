import HttpTap.Capture.Handler
import HttpTap.Exchange.Address

/-!
# Sending under a span

An instrument wraps the function by which sessions of the client library send requests.  Around
each request the wrapper

1. starts a span named after the method and the path,
2. records the body of the request and calls the wrapped function, with the span as the current
   one,
3. notes a fault of either on the span and ends it, or
4. hands the response to `handleResponse`, which records its body and ends the span.

When nothing is to be recorded, or the span does not record, the request goes through untouched.
An interrupt is let through as it is: it is not noted, and the span stays open.  It stays open as
well if a fault is noted that has no message, and then the fault that comes in place of the message
takes the place of the first one.

Wrapping is a stack.  Putting back what was wrapped removes everything that was wrapped around
it since.
-/

namespace HttpTap
namespace Act

/-- The channel of this part. -/
def clientChannel : String := "instrumentation.requests.instrumentation"

/-- The method of a request in capitals; a request without one gets. -/
def methodName (q : Request) : String :=
  Text.capitals (match q.method with
    | none | some "" => "GET"
    | some m => m)

/-- The name of the span of a request. -/
def spanName (method url : String) : Except Fault String :=
  (Address.path url).map fun path => method ++ " " ++ (if path = "" then "/" else path)

/-- A new message. -/
def newMessage (m : Message) : Act (Ref Message) :=
  ofRun fun w =>
    let (r, messages) := w.messages.alloc m
    (.ok r, { w with messages := messages })

/-- Note a fault on a span and end it, unless it is an interrupt.  Asking the fault for its message
stands outside every guard. -/
def failSpan (span : Ref Span) (f : Fault) : Act Unit := do
  if f.interrupts then return
  noteFault span f
  setError span (← lift f.message)
  finishSpan span

/-- Record the body of a request and send it, with the span as the current one. -/
def sendUnder (s : CaptureSettings) (span : Ref Span) (q : Ref Request)
    (send : Act (Option (Ref Response))) : Act (Option (Ref Response)) := do
  let present ← view (·.context)
  within { present with span := some span } do
    let outcome ← observe do
      let m ← newMessage (.request (some q))
      onStart s (.span span) (some m)
      send
    match outcome with
    | .ok p => return p
    | .error f =>
      failSpan span f
      throw f

/-- A function by which sessions of the kind `σ` send requests, with further arguments of the
kind `κ`. -/
abbrev Sending (σ κ : Type) := σ → Ref Request → κ → Act (Option (Ref Response))

variable {σ κ : Type}

/-- Send a request under a span of its own. -/
def tracedSend (i : Instrument) (send : Sending σ κ) : Sending σ κ := fun session q arguments => do
  if i.settings.enabled.truthy then
    let request ← view (·.requests.get q)
    let method := methodName request
    let url := request.url.getD ""
    let name ← lift (spanName method url)
    let present ← view (·.context)
    let span ← startSpan i.provider name true
      [("http.request.method", .text method), ("url.full", .text url)]
    if ← isRecording span then
      let p ← sendUnder i.settings span q (send session q arguments)
      let m ← newMessage (.response p)
      handleResponse i.settings span (some present) (some m) (pure p)
    else ensuring (send session q arguments) (finishSpan span)
  else send session q arguments

/-- Send a request by a function that may have been wrapped several times. -/
def sendBy (bare : Sending σ κ) : Sender → Sending σ κ
  | .bare => bare
  | .wrapped i inner => fun session q arguments => do
    tracedSend (← view (·.instruments.get i)) (sendBy bare inner) session q arguments

/-! ## Wrapping and putting back -/

/-- Remember what an instrument has wrapped. -/
def setWrapped (i : Ref Instrument) (s : Option Sender) : Act Unit :=
  change fun w => { w with wrapped := w.wrapped.set ⟨i.index⟩ s }

/-- Let the sessions of a module send by a function. -/
def setSender (m : Ref ClientModule) (s : Sender) : Act Unit :=
  change fun w => { w with modules := w.modules.set m ⟨some s⟩ }

/-- Wrap the function by which the sessions of a module send. -/
def wrapModule (i : Ref Instrument) (m : Ref ClientModule) : Act Unit := do
  match (← view (·.modules.get m)).sender with
  | none =>
    say (.complaint clientChannel "requests.Session not found, skipping instrumentation")
  | some s =>
    setWrapped i (some s)
    setSender m (.wrapped i s)
    say ⟨.info, clientChannel, "requests.Session.send instrumented", none⟩

/-- Put back what an instrument has wrapped, if anything. -/
def unwrapModule (i : Ref Instrument) (m : Ref ClientModule) : Act Unit := do
  match ← view (·.wrapped.get ⟨i.index⟩) with
  | none => return
  | some s =>
    if (← view (·.modules.get m)).sender.isNone then throw (.noMember "module" "Session")
    setSender m s
    setWrapped i none
    say ⟨.info, clientChannel, "requests.Session.send restored", none⟩

/-- Add an instrument, which has wrapped nothing. -/
def addInstrument (i : Instrument) : Act (Ref Instrument) := do
  let r ← ofRun fun w =>
    let (r, instruments) := w.instruments.alloc i
    (.ok r, { w with instruments := instruments })
  setWrapped r none
  return r

/-- A new instrument that is not at work yet. -/
def newInstrument (i : Instrument) : Act (Ref Instrument) := do
  let r ← addInstrument i
  say (.detail "instrumentation.base" "RequestsInstrumentation disabled, not patching requests")
  return r

end Act
end HttpTap
