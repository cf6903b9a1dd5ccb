import HttpTap.Entity.Basic
import HttpTap.Log.Record
import HttpTap.Settings.Basic
import HttpTap.Span.Basic
import HttpTap.Work

/-!
# The world of an exchange

While a request is sent and a response is handled, the library and the program share objects,
the current context changes, and the library writes to its log.  All of this is the `World`.

## Actions

An action may change the world and may fail; it is a function from a world to a result and a
world.  A failing action keeps what it has changed so far, as it must: the bytes that a stream
has given out before it failed are gone.

Two combinators carry the promises of the library.  `attempt` contains every fault but an
interrupt.  `ensuring` runs a last action in any case, and a fault of the last action takes the
place of an earlier one.

## The trace

Calls on stand-ins are noted in the order in which they happen.
-/

namespace HttpTap

/-- What a program finds as its surroundings: who is at work, and the span it works under. -/
structure Context where
  who : Option String
  span : Option (Ref Span)
  deriving Inhabited

/-- Where the attributes of a body go. -/
structure Sink where
  entries : List (String × Value)
  /-- How many further puts succeed, if not all of them. -/
  remaining : Option Nat

instance : Inhabited Sink := ⟨⟨[], none⟩⟩

/-- Where the spans of an instrument come from. -/
inductive Provider where
  /-- Every span records. -/
  | recording
  /-- Spans are started and do not record. -/
  | sampledOut
  /-- There are no spans at all. -/
  | absent
  deriving DecidableEq

/-- The fixed part of an instrumentation of the client library. -/
structure Instrument where
  settings : CaptureSettings
  provider : Provider

instance : Inhabited Instrument := ⟨⟨default, .recording⟩⟩

/-- The function that sends a request: the one of the client library, or a wrapper of an
instrument around another one. -/
inductive Sender where
  | bare
  | wrapped (by_ : Ref Instrument) (inner : Sender)

/-- The client library as a module: how its sessions send, if it has sessions. -/
structure ClientModule where
  sender : Option Sender

instance : Inhabited ClientModule := ⟨⟨none⟩⟩

/-- A call on a stand-in, or a note of a stand-in about its surroundings. -/
inductive Event where
  | stream (c : Call)
  /-- The content of an entity stand-in was opened for the given time. -/
  | opened (name : String) (index : Nat)
  | span (c : SpanCall) (failed : Bool)
  | handler (who : Option String)
  /-- The caller's surroundings after a handler has run. -/
  | after (who : Option String)
  /-- The function of the client library was called with these arguments under this span. -/
  | sent (arguments current : String)
  /-- The span around the caller after a request was sent. -/
  | afterSend (current : String)

/-- Everything that is shared. -/
structure World where
  sources : Store Source
  iterators : Store (List Item)
  streams : Store Stream
  entities : Store Entity
  requests : Store Request
  responses : Store Response
  messages : Store Message
  sinks : Store Sink
  spans : Store Span
  instruments : Store Instrument
  /-- What each instrument has wrapped and would put back, if it is at work. -/
  wrapped : Store (Option Sender)
  modules : Store ClientModule
  context : Context
  /-- The spans that have ended, the latest first. -/
  finished : List (Ref Span)
  /-- How many recording spans have been started. -/
  started : Nat
  /-- What stand-ins have noted, the latest first. -/
  trace : List Event
  /-- What the library has said, the latest first. -/
  log : List LogRecord

namespace World

/-- Nothing is there yet. -/
def empty : World where
  sources := .empty
  iterators := .empty
  streams := .empty
  entities := .empty
  requests := .empty
  responses := .empty
  messages := .empty
  sinks := .empty
  spans := .empty
  instruments := .empty
  wrapped := .empty
  modules := .empty
  context := ⟨none, none⟩
  finished := []
  started := 0
  trace := []
  log := []

instance : Inhabited World := ⟨empty⟩

/-- Note an event. -/
def note (w : World) (e : Event) : World := { w with trace := e :: w.trace }

/-- Write a line to the log. -/
def say (w : World) (r : LogRecord) : World := { w with log := r :: w.log }

end World

/-- Something that is done in the world and may fail. -/
abbrev Act := Work World

namespace Act

export Work (go go_pure go_throw go_bind go_bind_of_ok go_bind_of_error exists_of_go_bind)

variable {α : Type}

/-- The action with a given outcome in every world. -/
def ofRun (f : World → Except Fault α × World) : Act α := f

/-- A result that is there already, or a fault. -/
def lift (r : Except Fault α) : Act α := ofRun fun w => (r, w)

/-- Look at the world. -/
def view (f : World → α) : Act α := ofRun fun w => (.ok (f w), w)

/-- Change the world. -/
def change (f : World → World) : Act Unit := ofRun fun w => (.ok (), f w)

/-- The outcome of an action, which cannot fail any more. -/
def observe (a : Act α) : Act (Except Fault α) := ofRun fun w => (.ok (a w).1, (a w).2)

/-- Contain every fault but an interrupt. -/
def attempt (a : Act α) (recover : Fault → Act α) : Act α := do
  match ← observe a with
  | .ok x => return x
  | .error f => if f.interrupts then throw f else recover f

/-- Run a last action in any case.  Its fault takes the place of an earlier one. -/
def ensuring (a : Act α) (last : Act Unit) : Act α := do
  let outcome ← observe a
  last
  lift outcome

/-- Write a line to the log. -/
def say (r : LogRecord) : Act Unit := change (·.say r)

/-- Note an event. -/
def note (e : Event) : Act Unit := change (·.note e)

@[simp] theorem go_lift (r : Except Fault α) (w : World) : go (lift r) w = (r, w) := rfl

@[simp] theorem go_view (f : World → α) (w : World) : go (view f) w = (.ok (f w), w) := rfl

@[simp] theorem go_change (f : World → World) (w : World) : go (change f) w = (.ok (), f w) := rfl

@[simp] theorem go_observe (a : Act α) (w : World) :
    go (observe a) w = (.ok (go a w).1, (go a w).2) := rfl

/-- What an attempt comes to. -/
theorem go_attempt (a : Act α) (recover : Fault → Act α) (w : World) :
    go (attempt a recover) w =
      match go a w with
      | (.ok x, w') => (.ok x, w')
      | (.error f, w') => if f.interrupts then (.error f, w') else go (recover f) w' := by
  rw [attempt, go_bind, go_observe]
  simp only
  cases h : go a w with
  | mk r w' =>
    cases r with
    | ok x => rfl
    | error f => simp only; split <;> rfl

/-- A fault that is no interrupt goes to the guard. -/
theorem go_attempt_of_error {a : Act α} {recover : Fault → Act α} {w w' : World} {f : Fault}
    (failed : go a w = (.error f, w')) (contained : f.interrupts = false) :
    go (attempt a recover) w = go (recover f) w' := by
  rw [go_attempt, failed]
  simp only [contained, Bool.false_eq_true, if_false]

/-- A result that the guard does not give is one of the guarded action. -/
theorem of_go_attempt {a : Act α} {recover : Fault → Act α} {x : α} {w w' : World}
    (h : go (attempt a recover) w = (.ok x, w'))
    (other : ∀ f w₁, go (recover f) w₁ ≠ (.ok x, w')) : go a w = (.ok x, w') := by
  rw [go_attempt] at h
  cases ran : go a w with
  | mk outcome w₁ =>
    rw [ran] at h
    cases outcome with
    | ok y => exact h
    | error f =>
      dsimp only at h
      split at h
      · exact nomatch (Prod.mk.inj h).1
      · exact absurd h (other f w₁)

/-- The last action runs in the world that the first one has left behind. -/
theorem go_ensuring (a : Act α) (last : Act Unit) (w : World) :
    go (ensuring a last) w =
      match go last (go a w).2 with
      | (.ok (), w') => ((go a w).1, w')
      | (.error f, w') => (.error f, w') := by
  rw [ensuring, go_bind, go_observe]
  simp only [go_bind]
  cases h : go last (go a w).2 with
  | mk r w' => cases r <;> rfl

end Act

/-! ## How events are written -/

namespace Mark

/-- What came back from a read. -/
def text : Mark → String
  | length n => "=" ++ toString n
  | nothing => "=None"
  | unsized => "=?"
  | failed kind => "!" ++ kind.name

end Mark

namespace Event

/-- Who is at work. -/
def whoText (who : Option String) : String := who.getD "None"

/-- An event in one line. -/
def text : Event → String
  | stream (.read name size mark) => name ++ ".read(" ++ toString size ++ ")" ++ mark.text
  | stream (.close name) => name ++ ".close"
  | opened name index => name ++ ".get_content#" ++ toString index
  | span c failed => c.text ++ (if failed then "!" ++ FaultKind.runtime.name else "")
  | handler who => "handler(who=" ++ whoText who ++ ")"
  | after who => "after(who=" ++ whoText who ++ ")"
  | sent arguments current => "send(" ++ arguments ++ ") current=" ++ current
  | afterSend current => "after current=" ++ current

end Event
end HttpTap
