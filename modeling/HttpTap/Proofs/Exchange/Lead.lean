import HttpTap.Exchange.Send
import HttpTap.Proofs.World.Change

/-!
# Before and after the call

A wrapper does something before it calls the wrapped function and something after, and what it
does before does not depend on the function at all.  `Act.lead` is the first part and tells how the
function is called; `Act.settle` is the second part and is given the outcome of the call.  If the
first part does not fail, the wrapper is the first part, one call, and the second part
(`go_tracedSend_of_lead`).

The one thing that can make the first part fail is the address of the request: a span is named
after its path, and there are addresses that have none (`go_tracedSend_of_badAddress`).
-/

namespace HttpTap

/-- How the wrapped function is called. -/
inductive Lead where
  /-- As if there were no wrapper. -/
  | plain
  /-- Under a span that does not record. -/
  | sampledOut (span : Ref Span)
  /-- Under a span that records, which is the current one instead of the present one. -/
  | recording (span : Ref Span) (present : Context)

namespace World

/-- The name of the current span, if it records. -/
def currentName (w : World) : Option String :=
  match w.context.span.map w.spans.get with
  | some (.live span) => if span.recording then some span.name else none
  | _ => none

/-- The span that is started for a request. -/
def requestSpan (w : World) (provider : Provider) (q : Ref Request) (name : String) : LiveSpan where
  name := name
  recording := provider == .recording
  parent := w.currentName
  isClient := true
  attributes := [("http.request.method", .text (Act.methodName (w.requests.get q))),
    ("url.full", .text ((w.requests.get q).url.getD ""))]
  error := none
  events := []
  ended := false
  late := 0

/-- The world with a new span. -/
def withSpan (w : World) (span : LiveSpan) : World :=
  { w with
    spans := (w.spans.alloc (.live span)).2
    started := if span.recording then w.started + 1 else w.started }

/-- The world with another span as the current one. -/
def under (w : World) (span : Ref Span) : World :=
  { w with context := { w.context with span := some span } }

end World

namespace Act

variable {σ κ α : Type} {w w₀ : World} {i : Instrument} {q : Ref Request}

/-! ## The two parts -/

/-- Start the span of a request and go on as the span demands. -/
def starting (i : Instrument) (q : Ref Request) (recording : Ref Span → Context → Act α)
    (sampledOut : Ref Span → Act α) : Act α := do
  let request ← view (·.requests.get q)
  let method := methodName request
  let url := request.url.getD ""
  let name ← lift (spanName method url)
  let present ← view (·.context)
  let span ← startSpan i.provider name true
    [("http.request.method", .text method), ("url.full", .text url)]
  if ← isRecording span then recording span present else sampledOut span

/-- Record the body of a request. -/
def announce (s : CaptureSettings) (span : Ref Span) (q : Ref Request) : Act Unit := do
  let m ← newMessage (.request (some q))
  onStart s (.span span) (some m)

/-- What a wrapper does before the call. -/
def lead (i : Instrument) (q : Ref Request) : Act Lead :=
  if i.settings.enabled.truthy then
    starting i q
      (fun span present => do
        change fun w => w.under span
        announce i.settings span q
        return .recording span present)
      fun span => pure (.sampledOut span)
  else pure .plain

/-- Note a fault of the call on its span. -/
def orFail (span : Ref Span) : Except Fault (Option (Ref Response)) → Act (Option (Ref Response))
  | .ok p => pure p
  | .error f => do
    failSpan span f
    throw f

/-- A fault that is to be noted has a message. -/
def HasMessage (outcome : Except Fault α) : Prop :=
  ∀ f, outcome = .error f → f.interrupts = false → ∃ text, f.message = .ok text

theorem hasMessage_ok (x : α) : HasMessage (.ok x) := by
  intro f same
  exact absurd same (by simp)

/-- A fault that does not interrupt is noted, so it needs a message. -/
theorem hasMessage_error_iff {f : Fault} (contained : f.interrupts = false) :
    HasMessage (α := α) (.error f) ↔ ∃ text, f.message = .ok text := by
  constructor
  · exact fun worded => worded f rfl contained
  · rintro text g same -
    obtain rfl := Except.error.inj same
    exact text

/-- What a wrapper does with the outcome of the call. -/
def settle (s : CaptureSettings) (outcome : Except Fault (Option (Ref Response))) :
    Lead → Act (Option (Ref Response))
  | .plain => lift outcome
  | .sampledOut span => ensuring (lift outcome) (finishSpan span)
  | .recording span present => do
    let p ← ensuring (orFail span outcome) (change fun w => { w with context := present })
    let m ← newMessage (.response p)
    handleResponse s span (some present) (some m) (pure p)

/-! ## Starting a span -/

theorem go_currentSpan (w : World) : go currentSpan w = (.ok w.currentName, w) := by
  rw [currentSpan, go_bind, go_view, World.currentName]
  dsimp only
  cases w.context.span with
  | none => rfl
  | some r =>
    dsimp only [Option.map_some]
    rw [go_bind, go_view]
    dsimp only
    cases w.spans.get r with
    | live span => rfl
    | probe p => rfl

theorem go_startSpan (provider : Provider) (name : String) (isClient : Bool)
    (attributes : List (String × Value)) (w : World) :
    go (startSpan provider name isClient attributes) w = (.ok w.spans.next, w.withSpan
      ⟨name, provider == .recording, w.currentName, isClient, attributes, none, [], false, 0⟩) := by
  rw [startSpan, go_bind, go_currentSpan]
  rfl

theorem get_withSpan (w : World) (span : LiveSpan) :
    (w.withSpan span).spans.get w.spans.next = .live span := Store.get_alloc_same _ _

theorem go_isRecording {r : Ref Span} {span : LiveSpan} (live : w.spans.get r = .live span) :
    go (isRecording r) w = (.ok (span.recording && !span.ended), w) := by
  rw [isRecording, go_bind, go_view, live]
  rfl

/-- Once the span has a name it is started. -/
theorem go_starting_of_name {name : String}
    (named : spanName (methodName (w.requests.get q)) ((w.requests.get q).url.getD "") = .ok name)
    (recording : Ref Span → Context → Act α) (sampledOut : Ref Span → Act α) :
    go (starting i q recording sampledOut) w =
      go (if i.provider == .recording then recording w.spans.next w.context
          else sampledOut w.spans.next)
        (w.withSpan (w.requestSpan i.provider q name)) := by
  rw [starting, go_bind, go_view]
  dsimp only
  rw [go_bind, go_lift, named]
  dsimp only
  rw [go_bind, go_view]
  dsimp only
  rw [go_bind, go_startSpan]
  dsimp only
  rw [go_bind, go_isRecording (get_withSpan w _)]
  dsimp only
  rw [Bool.not_false, Bool.and_true]
  rfl

/-- An address without a path gives the span no name, and nothing is started. -/
theorem go_starting_of_badAddress {f : Fault}
    (bad : Address.path ((w.requests.get q).url.getD "") = .error f)
    (recording : Ref Span → Context → Act α) (sampledOut : Ref Span → Act α) :
    go (starting i q recording sampledOut) w = (.error f, w) := by
  have unnamed : spanName (methodName (w.requests.get q)) ((w.requests.get q).url.getD "") =
      .error f := by
    rw [spanName, bad]
    rfl
  rw [starting, go_bind, go_view]
  dsimp only
  rw [go_bind, go_lift, unnamed]

/-! ## One call -/

/-- Sending under a span is recording the body and calling, and noting a fault of either. -/
theorem go_sendUnder (s : CaptureSettings) (span : Ref Span) (q : Ref Request)
    (send : Act (Option (Ref Response))) (w : World) :
    go (sendUnder s span q send) w =
      go (ensuring (orFail span (go (announce s span q >>= fun _ => send) (w.under span)).1)
          (change fun w' => { w' with context := w.context }))
        (go (announce s span q >>= fun _ => send) (w.under span)).2 := by
  rw [sendUnder, go_bind, go_view]
  show go (ensuring (do
      let outcome ← observe (announce s span q >>= fun _ => send)
      match outcome with
      | .ok p => return p
      | .error f => do
        failSpan span f
        throw f) (change fun w' => { w' with context := w.context })) (w.under span) = _
  rw [go_ensuring, go_ensuring, go_bind, go_observe]
  cases (go (announce s span q >>= fun _ => send) (w.under span)).1 <;> rfl

/-- If the body is recorded, this is one call in the world that recording it has left. -/
theorem go_sendUnder_of_announce {s : CaptureSettings} {span : Ref Span} {q : Ref Request}
    (announced : go (announce s span q) (w.under span) = (.ok (), w₀))
    (send : Act (Option (Ref Response))) :
    go (sendUnder s span q send) w =
      go (ensuring (orFail span (go send w₀).1) (change fun w' => { w' with context := w.context }))
        (go send w₀).2 := by
  rw [go_sendUnder, go_bind_of_ok announced]

/-- A wrapper at work starts a span. -/
theorem tracedSend_of_enabled (enabled : i.settings.enabled.truthy = true) (send : Sending σ κ)
    (session : σ) (arguments : κ) :
    tracedSend i send session q arguments =
      starting i q
        (fun span present => do
          let p ← sendUnder i.settings span q (send session q arguments)
          let m ← newMessage (.response p)
          handleResponse i.settings span (some present) (some m) (pure p))
        fun span => ensuring (send session q arguments) (finishSpan span) := by
  rw [tracedSend, if_pos enabled]
  rfl

/-- Under a span that records, a wrapper announces the request and calls. -/
theorem go_lead_of_announce {name : String} (enabled : i.settings.enabled.truthy = true)
    (records : (i.provider == .recording) = true)
    (named : spanName (methodName (w.requests.get q)) ((w.requests.get q).url.getD "") = .ok name)
    (announced : go (announce i.settings w.spans.next q)
      ((w.withSpan (w.requestSpan i.provider q name)).under w.spans.next) = (.ok (), w₀)) :
    go (lead i q) w = (.ok (.recording w.spans.next w.context), w₀) := by
  rw [lead, if_pos enabled, go_starting_of_name named, if_pos records, go_bind, go_change]
  exact go_bind_of_ok announced _

/-- The three ways in which the first part of a wrapper ends without a fault.  A span is started
under the name of the request and does not record, or it does and the body was recorded under it, or
the wrapper is not at work. -/
theorem lead_cases {l : Lead} (reached : go (lead i q) w = (.ok l, w₀)) :
    (l = .plain ∧ i.settings.enabled.truthy = false ∧ w₀ = w) ∨
    (i.settings.enabled.truthy = true ∧ ∃ name,
      spanName (methodName (w.requests.get q)) ((w.requests.get q).url.getD "") = .ok name ∧
      ((l = .sampledOut w.spans.next ∧ (i.provider == .recording) = false ∧
          w₀ = w.withSpan (w.requestSpan i.provider q name)) ∨
        (l = .recording w.spans.next w.context ∧ (i.provider == .recording) = true ∧
          go (announce i.settings w.spans.next q) ((w.withSpan
            (w.requestSpan i.provider q name)).under w.spans.next) = (.ok (), w₀)))) := by
  by_cases enabled : i.settings.enabled.truthy = true
  · refine .inr ⟨enabled, ?_⟩
    rw [lead, if_pos enabled] at reached
    cases named : spanName (methodName (w.requests.get q)) ((w.requests.get q).url.getD "") with
    | error f =>
      rw [starting, go_bind, go_view] at reached
      dsimp only at reached
      rw [go_bind, go_lift, named] at reached
      exact absurd (Prod.mk.inj reached).1 (by simp)
    | ok name =>
      refine ⟨name, rfl, ?_⟩
      rw [go_starting_of_name named] at reached
      by_cases records : (i.provider == .recording) = true
      · rw [if_pos records, go_bind, go_change] at reached
        obtain ⟨_, w₂, announced, reached⟩ := exists_of_go_bind reached
        obtain ⟨same, rfl⟩ := Prod.mk.inj reached
        exact .inr ⟨(Except.ok.inj same).symm, records, announced⟩
      · rw [if_neg records] at reached
        obtain ⟨same, rfl⟩ := Prod.mk.inj reached
        exact .inl ⟨(Except.ok.inj same).symm, Bool.eq_false_iff.2 records, rfl⟩
  · rw [lead, if_neg enabled] at reached
    obtain ⟨same, rfl⟩ := Prod.mk.inj reached
    exact .inl ⟨(Except.ok.inj same).symm, Bool.eq_false_iff.2 enabled, rfl⟩

/-- If the first part of a wrapper does not fail, the second part follows on one call of the
wrapped function, with the session, the request and the arguments that the wrapper was given. -/
theorem go_tracedSend_of_lead {l : Lead} (reached : go (lead i q) w = (.ok l, w₀))
    (send : Sending σ κ) (session : σ) (arguments : κ) :
    go (tracedSend i send session q arguments) w =
      go (settle i.settings (go (send session q arguments) w₀).1 l)
        (go (send session q arguments) w₀).2 := by
  rcases lead_cases reached with
    ⟨rfl, disabled, rfl⟩ | ⟨enabled, name, named, ⟨rfl, sampled, rfl⟩ | ⟨rfl, records, announced⟩⟩
  · rw [tracedSend, if_neg (by rw [disabled]; exact Bool.false_ne_true)]
    rfl
  · rw [tracedSend_of_enabled enabled, go_starting_of_name named,
      if_neg (by rw [sampled]; exact Bool.false_ne_true)]
    rfl
  · rw [tracedSend_of_enabled enabled, go_starting_of_name named, if_pos records, go_bind,
      go_sendUnder_of_announce announced, settle, go_bind]
    rfl

/-- An address without a path ends the sending before it has begun. -/
theorem go_tracedSend_of_badAddress {f : Fault} (enabled : i.settings.enabled.truthy = true)
    (bad : Address.path ((w.requests.get q).url.getD "") = .error f) (send : Sending σ κ)
    (session : σ) (arguments : κ) :
    go (tracedSend i send session q arguments) w = (.error f, w) := by
  rw [tracedSend_of_enabled enabled]
  exact go_starting_of_badAddress bad _ _

end Act
end HttpTap
