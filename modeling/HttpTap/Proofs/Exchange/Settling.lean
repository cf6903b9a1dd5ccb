import HttpTap.Proofs.Capture.Calm
import HttpTap.Proofs.Capture.Swapping
import HttpTap.Proofs.Exchange.Lead

/-!
# After the call

The second part of a wrapper is given the outcome of the call.  A fault is noted on the span; a
response is buffered, recorded and handed to a handler that gives it back, and in between the span
ends (`go_handleResponse`).

In a calm world, and with a span that does not fail, all of this changes nothing about the outcome
(`go_settle_of_calm`), as long as a fault that is noted has a message.  A fault without one gives
way to the fault that is raised in place of the message (`go_failSpan_of_mute`).  The frame that it
rests on is `World.Ready`: what was handed in as a response still is one when the span is told about
it, and nobody has taken the span away.
-/

namespace HttpTap

/-- The span of a request, if it has one. -/
def Lead.span? : Lead → Option (Ref Span)
  | .plain => none
  | .sampledOut span | .recording span _ => some span

/-- Does the span of a request record? -/
def Lead.records : Lead → Bool
  | .recording .. => true
  | _ => false

namespace World

/-- The span of a request, if it has one, can be ended. -/
def Willing (w : World) (l : Lead) : Prop :=
  ∀ r, l.span? = some r → SpanMethod.finish ∉ (w.spans.get r).failing

/-- The message is a response, and the span fails in none of its methods. -/
structure Ready (w : World) (m : Ref Message) (r : Ref Span) : Prop where
  response : w.IsResponse m
  sturdy : (w.spans.get r).failing = []

/-- After a call that gave a response, the surroundings of the caller are put back, and the
response becomes a message. -/
def returned (w : World) (present : Context) (p : Option (Ref Response)) : World :=
  { w with context := present, messages := (w.messages.alloc (.response p)).2 }

variable {w w' : World} {m : Ref Message} {r : Ref Span}

theorem Consulted.ready (h : w.Consulted w') (ready : w.Ready m r) : w'.Ready m r where
  response := by
    rw [IsResponse, h.messages]
    exact ready.response
  sturdy := by
    rw [h.spans]
    exact ready.sturdy

theorem Told.ready (h : w.Told w') (ready : w.Ready m r) : w'.Ready m r where
  response := by
    rw [IsResponse, h.messages]
    exact ready.response
  sturdy := (h.failing r).trans ready.sturdy

theorem get_returned (w : World) (present : Context) (p : Option (Ref Response)) :
    (w.returned present p).messages.get w.messages.next = .response p :=
  Store.get_alloc_same _ _

end World

namespace Act

open World

variable {α : Type} {w w₁ w₂ w₃ : World} {s : CaptureSettings} {m : Ref Message} {span : Ref Span}
  {present : Context}

/-! ## The steps -/

/-- A handler runs in the world that the end of the span has left behind. -/
theorem go_handleResponse {handler : Act α}
    (buffered : go (makeResponseRepeatable s (some m)) w = (.ok (), w₁))
    (recorded : go (onEnd s (.span span) (some m)) w₁ = (.ok (), w₂))
    (closed : go (closeSpan span (some m)) w₂ = (.ok (), w₃)) :
    go (handleResponse s span (some present) (some m) handler) w =
      go (within present handler) w₃ := by
  rw [handleResponse, go_bind_of_ok buffered, go_bind_of_ok recorded, go_bind_of_ok closed]

/-- The default handler gives the response back and does nothing. -/
theorem go_within_pure (x : α) (w : World) : go (within present (pure x)) w = (.ok x, w) := rfl

theorem go_settle_recording (p : Option (Ref Response)) (w : World) :
    go (settle s (.ok p) (.recording span present)) w =
      go (handleResponse s span (some present) (some w.messages.next) (pure p))
        (w.returned present p) := rfl

/-! ## What stays ready -/

/-- Recording takes no span away and turns no response into another sort of message. -/
instance : SwappingFrame (Preserves fun w => w.Ready m span) where
  toReadingFrame := .of_consulted fun _ _ consulted => consulted.ready
  setHeld w m' e status held ready := by
    obtain ⟨p, response⟩ := ready.response
    have apart : m ≠ m' := by
      rintro rfl
      rw [response] at held
      simp at held
    exact ⟨⟨p, (Store.get_set_other apart _).trans response⟩, ready.sturdy⟩
  setRequest w q x ready := ⟨ready.response, ready.sturdy⟩
  setContent w p content ready := ⟨ready.response, ready.sturdy⟩

instance : TellingFrame (Preserves fun w => w.Ready m span) where
  setProbe w q p p' found same := Told.ready (TellingFrame.setProbe w q p p' found same)
  setRunning w q s s' found goesOn := Told.ready (TellingFrame.setRunning w q s s' found goesOn)
  setSink w q x := Told.ready (TellingFrame.setSink w q x)
  noted w e := Told.ready (TellingFrame.noted w e)

/-! ## The outcome -/

/-- A response is handled without a fault. -/
theorem go_handleResponse_of_calm {x : α} (calm : w.Calm) (ready : w.Ready m span) :
    ∃ w', go (handleResponse s span (some present) (some m) (pure x)) w = (.ok x, w') := by
  have respects : ∀ w w' : World, Preserves (fun w => w.Ready m span) w w' →
      w.Ready m span → w'.Ready m span := fun _ _ => id
  have buffer := (succeeds_makeResponseRepeatable s (some m)).and_of_keeps
    (keeps_makeResponseRepeatable s (some m)) respects
  obtain ⟨_, w₁, buffered, both, -⟩ := buffer.go ⟨calm, ready⟩
  have record := (succeeds_onEnd s (.span span) (some m)).and_of_keeps
    (keeps_onEnd s (.span span) (some m)) respects
  obtain ⟨_, w₂, recorded, both, -⟩ := record.go both
  obtain ⟨w₃, closed, -⟩ := go_closeSpan (w := w₂) (r := span) both.2.response
    (by rw [both.2.sturdy]; exact List.not_mem_nil)
  refine ⟨w₃, ?_⟩
  rw [go_handleResponse buffered recorded closed]
  exact go_within_pure x w₃

/-- Noting a fault that has a message on a span that does not fail raises nothing. -/
theorem go_failSpan (sturdy : (w.spans.get span).failing = []) {f : Fault}
    (worded : f.interrupts = false → ∃ text, f.message = .ok text) :
    ∃ w', go (failSpan span f) w = (.ok (), w') := by
  rw [failSpan]
  split
  · exact ⟨w, rfl⟩
  · next goesOn =>
    obtain ⟨text, message⟩ := worded (Bool.eq_false_iff.2 goesOn)
    obtain ⟨w₁, noted, told₁⟩ := go_noteFault span f w
    obtain ⟨w₂, set, told₂⟩ := go_setError (w := w₁) (r := span)
      (by rw [told₁.failing, sturdy]; exact List.not_mem_nil) text
    obtain ⟨w₃, finished, -⟩ := go_finishSpan (w := w₂) (r := span)
      (by rw [told₂.failing, told₁.failing, sturdy]; exact List.not_mem_nil)
    refine ⟨w₃, ?_⟩
    rw [go_bind_of_ok noted, message, go_bind, go_lift]
    dsimp only
    rw [go_bind_of_ok set]
    exact finished

/-- Asking a fault without a message for it ends the noting. -/
theorem go_failSpan_of_mute {f g : Fault} (contained : f.interrupts = false)
    (mute : f.message = .error g) (span : Ref Span) (w : World) :
    ∃ w', go (failSpan span f) w = (.error g, w') := by
  obtain ⟨w₁, noted, -⟩ := go_noteFault span f w
  refine ⟨w₁, ?_⟩
  rw [failSpan, if_neg (by rw [contained]; exact Bool.false_ne_true), go_bind_of_ok noted, mute,
    go_bind, go_lift]

/-- What a wrapper does after the call changes nothing about the outcome. -/
theorem go_settle_of_calm {l : Lead} (calm : w.Calm)
    (sturdy : ∀ r, l.span? = some r → (w.spans.get r).failing = [])
    {outcome : Except Fault (Option (Ref Response))}
    (worded : l.records = true → HasMessage outcome) :
    ∃ w', go (settle s outcome l) w = (outcome, w') := by
  cases l with
  | plain => exact ⟨w, rfl⟩
  | sampledOut span =>
    obtain ⟨w', finished, -⟩ := go_finishSpan (w := w) (r := span)
      (by rw [sturdy span rfl]; exact List.not_mem_nil)
    refine ⟨w', ?_⟩
    rw [settle, go_ensuring, go_lift, finished]
  | recording span present =>
    cases outcome with
    | ok p =>
      rw [go_settle_recording]
      refine go_handleResponse_of_calm ?_ ⟨⟨p, get_returned w present p⟩, sturdy span rfl⟩
      exact (calm.newMessage (x := .response p) trivial).of_same rfl rfl rfl rfl
    | error f =>
      obtain ⟨w', failed⟩ := go_failSpan (sturdy span rfl) (worded rfl f rfl)
      refine ⟨{ w' with context := present }, ?_⟩
      rw [settle, go_bind, go_ensuring, orFail, go_bind_of_ok failed]
      rfl

/-- Under a span that records, a fault without a message is not what comes out. -/
theorem go_settle_of_mute {f g : Fault} (contained : f.interrupts = false)
    (mute : f.message = .error g) (w : World) :
    ∃ w', go (settle s (.error f) (.recording span present)) w = (.error g, w') := by
  obtain ⟨w', failed⟩ := go_failSpan_of_mute contained mute span w
  refine ⟨{ w' with context := present }, ?_⟩
  rw [settle, go_bind, go_ensuring, orFail, go_bind_of_error failed]
  rfl

end Act
end HttpTap
