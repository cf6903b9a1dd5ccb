import HttpTap.Fault
import HttpTap.Log.Record
import HttpTap.Value.Content
import HttpTap.Value.Named

/-!
# Capture settings

What is captured is settled by three settings: whether to record the bodies of requests, whether
to record those of responses, and how many bytes of a body are kept.  They are fixed for the
lifetime of whoever uses them.

The two switches may be given as any value and count by its truth.  The limit is an integer
above zero, and the type says so: there are no settings without a usable limit.
-/

namespace HttpTap

/-- The version of the library. -/
def version : String := "0.1.0"

/-- How many bytes of a body are kept unless something else is said. -/
def defaultLimit : Int := 4096

/-- Settings, fixed once they are made. -/
structure CaptureSettings where
  /-- Record the bodies of requests? -/
  requests : Value
  /-- Record the bodies of responses? -/
  responses : Value
  /-- How many bytes of a body are kept. -/
  limit : Int
  limit_pos : 0 < limit

namespace CaptureSettings

/-- Nothing is recorded. -/
def standard : CaptureSettings := ⟨.bool false, .bool false, defaultLimit, by decide⟩

instance : Inhabited CaptureSettings := ⟨standard⟩

/-- The fault for a limit that is no integer. -/
def notInteger (v : Value) : Fault :=
  match v.literal? with
  | some shown => .sizeNotInteger shown
  | none => .numeralTooLong

/-- The fault for a limit that is an integer below one. -/
def notPositive (n : Int) : Fault :=
  match Value.numeral? n with
  | some shown => .sizeNotPositive shown
  | none => .numeralTooLong

/-- Settings from three values.  Truth values are no integers here. -/
def make (requests responses size : Value) : Except Fault CaptureSettings :=
  match size with
  | .int n =>
    if h : 0 < n then .ok ⟨requests, responses, n, h⟩ else .error (notPositive n)
  | v => .error (notInteger v)

/-- The names of the settings. -/
def names : List String := ["capture_request_body", "capture_response_body", "max_body_size"]

/-- Settings from what is given by name. -/
def ofNamed (given : Named) : Except Fault CaptureSettings := do
  let given ← given.among names
  make (given.get "capture_request_body" standard.requests)
    (given.get "capture_response_body" standard.responses)
    (given.get "max_body_size" (.int standard.limit))

/-- Are the bodies of requests recorded? -/
def recordsRequests (s : CaptureSettings) : Bool := s.requests.truthy

/-- Are the bodies of responses recorded? -/
def recordsResponses (s : CaptureSettings) : Bool := s.responses.truthy

/-- The first switch that counts as true, else the second one. -/
def enabled (s : CaptureSettings) : Value := if s.recordsRequests then s.requests else s.responses

/-- The settings in one line, for the log. -/
def literal? (s : CaptureSettings) : Option String := do
  let requests ← s.requests.literal?
  let responses ← s.responses.literal?
  let limit ← Value.numeral? s.limit
  return "CaptureConfig(capture_request_body=" ++ requests ++ ", capture_response_body=" ++
    responses ++ ", max_body_size=" ++ limit ++ ")"

/-- Settings are made exactly from integers above zero. -/
theorem make_isOk_iff (a b v : Value) :
    (∃ s, make a b v = .ok s) ↔ ∃ n : Int, v = .int n ∧ 0 < n := by
  constructor
  · rintro ⟨s, hs⟩
    unfold make at hs
    split at hs
    · next n =>
      split at hs
      · next h => exact ⟨n, rfl, h⟩
      · simp at hs
    · simp at hs
  · rintro ⟨n, rfl, h⟩
    exact ⟨⟨a, b, n, h⟩, by simp [make, h]⟩

/-- A setting cannot be changed. -/
def frozen (name : String) : Fault :=
  .misuse .frozen ("cannot assign to field '" ++ name ++ "'")

end CaptureSettings
end HttpTap
