import HttpTap.World.Basic

/-!
# Telling a span

A probe notes each call and fails in the methods in which it was told to fail; what it was told
before it fails is kept all the same.  A recording span never fails.
-/

namespace HttpTap
namespace Act

/-- Put a span in the place of another one. -/
def setSpan (r : Ref Span) (s : Span) : Act Unit :=
  change fun w => { w with spans := w.spans.set r s }

/-- Note a call on a probe, which may fail in it. -/
def callProbe (p : Probe) (c : SpanCall) : Act Unit := do
  let fails := p.failing.contains c.method
  note (.span c fails)
  if fails then throw c.method.failure

/-- Set an attribute. -/
def setAttribute (r : Ref Span) (key : String) (v : Value) : Act Unit := do
  match ← view (·.spans.get r) with
  | .probe p =>
    setSpan r (.probe { p with values := (key, v) :: p.values })
    callProbe p (.setAttribute key)
  | .live s => setSpan r (.live (s.setAttribute key v))

/-- Set the error status. -/
def setError (r : Ref Span) (description : String) : Act Unit := do
  match ← view (·.spans.get r) with
  | .probe p => callProbe p (.setError description)
  | .live s => setSpan r (.live (s.setError description))

/-- Note a fault as an event. -/
def noteFault (r : Ref Span) (f : Fault) : Act Unit := do
  match ← view (·.spans.get r) with
  | .probe _ => return
  | .live s => setSpan r (.live (s.note f))

/-- End a span. -/
def finishSpan (r : Ref Span) : Act Unit := do
  match ← view (·.spans.get r) with
  | .probe p => callProbe p .finish
  | .live s =>
    setSpan r (.live s.finish)
    if s.recording && !s.ended then
      change fun w => { w with finished := r :: w.finished }

/-- Run an action under another context and come back to the present one, whatever happens. -/
def within {α : Type} (c : Context) (a : Act α) : Act α := do
  let present ← view (·.context)
  change fun w => { w with context := c }
  ensuring a (change fun w => { w with context := present })

/-- The name of the current span, if it records. -/
def currentSpan : Act (Option String) := do
  match (← view (·.context)).span with
  | none => return none
  | some r =>
    match ← view (·.spans.get r) with
    | .live s => return if s.recording then some s.name else none
    | .probe _ => return none

/-- Start a span under the current one. -/
def startSpan (provider : Provider) (name : String) (isClient : Bool)
    (attributes : List (String × Value)) : Act (Ref Span) := do
  let parent ← currentSpan
  let recording := provider == .recording
  let span : LiveSpan := ⟨name, recording, parent, isClient, attributes, none, [], false, 0⟩
  ofRun fun w =>
    let (r, spans) := w.spans.alloc (.live span)
    (.ok r, { w with spans := spans, started := if recording then w.started + 1 else w.started })

/-- Does a span record? -/
def isRecording (r : Ref Span) : Act Bool := do
  match ← view (·.spans.get r) with
  | .live s => return s.recording && !s.ended
  | .probe _ => return true

end Act
end HttpTap
