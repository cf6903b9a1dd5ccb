import HttpTap.Fault
import HttpTap.Value.Basic

/-!
# Spans

A span is the record of one piece of work: attributes, a status, events, and the moment at which
it ends.  Two kinds occur.  A *recording* span keeps what it is told until it has ended; what comes
later is dropped, and a call that was dropped is counted.  A *probe* stands in for a foreign span;
it reports every call and may be told to fail in some of its methods.

A span that does not record is a recording span with the switch off.
-/

namespace HttpTap

/-- The methods of a span in which a probe may fail. -/
inductive SpanMethod where
  | setAttribute
  | setStatus
  | finish
  deriving DecidableEq

namespace SpanMethod

/-- The name of the method. -/
def name : SpanMethod → String
  | setAttribute => "set_attribute"
  | setStatus => "set_status"
  | finish => "end"

/-- What a probe raises in the method. -/
def failure (m : SpanMethod) : Fault := .scripted .runtime (m.name ++ " failed")

end SpanMethod

/-- A call on a span. -/
inductive SpanCall where
  | setAttribute (key : String)
  /-- The status "error" with its description. -/
  | setError (description : String)
  | finish
  deriving DecidableEq

namespace SpanCall

/-- The method that is called. -/
def method : SpanCall → SpanMethod
  | setAttribute _ => .setAttribute
  | setError _ => .setStatus
  | finish => .finish

/-- The call as a probe reports it. -/
def text : SpanCall → String
  | setAttribute key => "span.set_attribute(" ++ key ++ ")"
  | setError description => "span.set_status(ERROR," ++ description ++ ")"
  | finish => "span.end()"

end SpanCall

/-- A stand-in for a foreign span. -/
structure Probe where
  /-- The methods that fail. -/
  failing : List SpanMethod
  /-- The attributes in the order in which they were set, the latest first. -/
  values : List (String × Value)

/-- A fault noted on a span: the kind, and the message if the fault has one. -/
structure SpanEvent where
  name : String
  kind : String
  message : Option String

/-- A span that keeps what it is told. -/
structure LiveSpan where
  name : String
  /-- Does it record? -/
  recording : Bool
  /-- The name of the span under which it was started, if that one records. -/
  parent : Option String
  /-- The kind of work: a call to another program, or work of the program's own. -/
  isClient : Bool
  attributes : List (String × Value)
  /-- The description of the error status, if the status was set. -/
  error : Option String
  events : List SpanEvent
  ended : Bool
  /-- How many calls came after the end.  Each of them is warned of and dropped. -/
  late : Nat

/-- A span. -/
inductive Span where
  | probe (p : Probe)
  | live (s : LiveSpan)

instance : Inhabited Span := ⟨.probe ⟨[], []⟩⟩

/-- Put a value under a key; a key keeps its place. -/
def putEntry (entries : List (String × Value)) (key : String) (v : Value) :
    List (String × Value) :=
  match entries with
  | [] => [(key, v)]
  | (k, w) :: es => if k = key then (key, v) :: es else (k, w) :: putEntry es key v

/-- Under its key the value is found. -/
theorem lookup_putEntry_same (entries : List (String × Value)) (key : String) (v : Value) :
    (putEntry entries key v).lookup key = some v := by
  induction entries with
  | nil => exact List.lookup_cons_self
  | cons e es ih =>
    obtain ⟨k, w⟩ := e
    by_cases same : k = key
    · rw [putEntry, if_pos same]
      exact List.lookup_cons_self
    · have apart : (key == k) = false := beq_eq_false_iff_ne.2 fun h => same h.symm
      rw [putEntry, if_neg same, List.lookup_cons, apart]
      exact ih

/-- Every other key keeps what it has. -/
theorem lookup_putEntry_other {key other : String} (apart : other ≠ key)
    (entries : List (String × Value)) (v : Value) :
    (putEntry entries key v).lookup other = entries.lookup other := by
  have unlike : (other == key) = false := beq_eq_false_iff_ne.2 apart
  induction entries with
  | nil => rw [putEntry, List.lookup_cons, unlike]
  | cons e es ih =>
    obtain ⟨k, w⟩ := e
    by_cases same : k = key
    · rw [putEntry, if_pos same, List.lookup_cons, List.lookup_cons, same, unlike]
    · rw [putEntry, if_neg same, List.lookup_cons, List.lookup_cons, ih]

namespace LiveSpan

/-- Drop a call that comes too late. -/
def drop (s : LiveSpan) : LiveSpan := { s with late := s.late + 1 }

/-- Record an attribute, unless the span has ended. -/
def setAttribute (s : LiveSpan) (key : String) (v : Value) : LiveSpan :=
  if s.ended then s.drop else { s with attributes := putEntry s.attributes key v }

/-- Record the error status, unless the span has ended. -/
def setError (s : LiveSpan) (description : String) : LiveSpan :=
  if s.ended then s.drop else { s with error := some description }

/-- Note a fault, unless the span has ended. -/
def note (s : LiveSpan) (f : Fault) : LiveSpan :=
  if s.ended then s.drop
  else { s with events := s.events ++ [⟨"exception", f.kind.qualifiedName, f.message.toOption⟩] }

/-- End the span, unless it has ended. -/
def finish (s : LiveSpan) : LiveSpan := if s.ended then s.drop else { s with ended := true }

/-- After its end a span takes nothing in. -/
theorem setAttribute_of_ended {s : LiveSpan} (h : s.ended = true) (key : String) (v : Value) :
    s.setAttribute key v = s.drop := by
  simp [setAttribute, h]

end LiveSpan
end HttpTap
