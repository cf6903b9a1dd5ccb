import HttpTap.Capture.Recorder

/-!
# Handling a response after its span

A program may hand in a function that handles the response.  What that function does, further
requests included, is no part of the work that the span stands for.  So a wrapped handler

1. buffers the entity of the response if it can be read only once,
2. records the body on the span,
3. sets the status of the span and ends it,
4. runs the function under the context from before the span.

Setting the status is guarded; ending the span is not, and comes in any case.
-/

namespace HttpTap
namespace Act

/-- The channel of this part. -/
def handlerChannel : String := "capture.response_handler"

/-- The key of the status. -/
def statusKey : String := "http.response.status_code"

/-- What a span is told about a status that is an error.  A number that is too long to be written has
no such text. -/
def statusText (n : Int) : Except Fault String :=
  match Value.numeral? n with
  | some text => .ok ("HTTP " ++ text)
  | none => .error .numeralTooLong

/-- Tell a span the status of a response: the number, and from 400 on that it is an error. -/
def tellStatus (span : Ref Span) (m : Option (Ref Message)) : Act Unit := do
  let status ← match m with
    | none => pure .null
    | some m => messageStatus m
  match status.integer? with
  | none => return
  | some n =>
    setAttribute span statusKey status
    if 400 ≤ n then setError span (← lift (statusText n))

/-- Set the status of a span and end it. -/
def closeSpan (span : Ref Span) (m : Option (Ref Message)) : Act Unit :=
  ensuring
    (attempt (tellStatus span m) fun f =>
      say (.contained handlerChannel "Failed to set span status from response" f))
    (finishSpan span)

/-- Finish the span of a response, then handle the response. -/
def handleResponse {α : Type} (s : CaptureSettings) (span : Ref Span) (parent : Option Context)
    (m : Option (Ref Message)) (handler : Act α) : Act α := do
  makeResponseRepeatable s m
  onEnd s (.span span) m
  closeSpan span m
  match parent with
  | none => handler
  | some c => within c handler

end Act
end HttpTap
