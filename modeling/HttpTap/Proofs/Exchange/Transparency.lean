import HttpTap.Proofs.Exchange.Settling

/-!
# Transparent sending

A wrapper should be transparent: it calls the wrapped function once, with what it was itself given,
and the outcome of the call is its own outcome, be it a response, nothing at all or a fault.  The
world in which the call takes place and what is done afterwards must not depend on the function.

In a calm world a wrapper falls short of that in two ways (`transparent_iff`).  The span of a request
is named after the path of its address, and there are addresses that have no path because they cannot
be taken apart; naming the span stands outside every guard, so such a request is never sent.  And a
fault of the call is described on the span by its message.  An error of the program's own making may
raise another one when it is asked for its message; that one comes out instead.

An instrument that records nothing starts no span and is transparent for every address and every
outcome.
-/

namespace HttpTap

open Act

/-- If the outcome is a fault that the wrapper describes on a span, the fault has a message. -/
def Instrument.CanTell (i : Instrument) (outcome : Except Fault (Option (Ref Response))) : Prop :=
  i.settings.enabled.truthy = true → i.provider = .recording → HasMessage outcome

/-- Sending the request through a wrapper is one call of the wrapped function, with the session, the
request and the arguments that the wrapper was given, and it comes to what the call comes to.  The
call may come to anything that can be told, and it may leave the world in any state in which nothing
raises interrupts and the span of the request does not fail. -/
def Instrument.Transparent (i : Instrument) (q : Ref Request) (w : World) : Prop :=
  ∃ (w₀ : World) (after : Except Fault (Option (Ref Response)) → World → World),
    ∀ (σ κ : Type) (send : Sending σ κ) (session : σ) (arguments : κ)
      (outcome : Except Fault (Option (Ref Response))) (w₁ : World),
      go (send session q arguments) w₀ = (outcome, w₁) → i.CanTell outcome → w₁.Calm →
        (w₁.spans.get w.spans.next).failing = [] →
          go (tracedSend i send session q arguments) w = (outcome, after outcome w₁)

/-- The path of the address to which a request goes. -/
def World.pathOf (w : World) (q : Ref Request) : Except Fault String :=
  Address.path ((w.requests.get q).url.getD "")

namespace Act

open World

variable {w : World} {i : Instrument} {q : Ref Request}

/-! ## Before the call -/

/-- Recording the body of a request comes to an end in a calm world. -/
theorem succeeds_announce (s : CaptureSettings) (span : Ref Span) (q : Ref Request) :
    Succeeds Calm (fun _ => True) (announce s span q) := by
  have made : Succeeds Calm (fun _ => True) (newMessage (.request (some q))) :=
    fun _ h => ⟨h.newMessage (x := .request (some q)) trivial, _, rfl, trivial⟩
  exact made.bind fun m _ => succeeds_onStart s (.span span) (some m)

/-- With a path, or without need of one, the call is reached; the span is the one that was started
last, and it records if the wrapper is at work and its spans do. -/
theorem exists_lead (calm : w.Calm)
    (named : i.settings.enabled.truthy = true → ∃ path, w.pathOf q = .ok path) :
    ∃ l w₀, go (lead i q) w = (.ok l, w₀) ∧ (∀ r, l.span? = some r → r = w.spans.next) ∧
      l.records = (i.settings.enabled.truthy && i.provider == .recording) := by
  by_cases enabled : i.settings.enabled.truthy = true
  · obtain ⟨path, hpath⟩ := named enabled
    set name := methodName (w.requests.get q) ++ " " ++ (if path = "" then "/" else path)
    have hname : spanName (methodName (w.requests.get q)) ((w.requests.get q).url.getD "") =
        .ok name := by
      rw [spanName, show Address.path ((w.requests.get q).url.getD "") = .ok path from hpath]
      rfl
    rw [lead, if_pos enabled, go_starting_of_name hname, enabled, Bool.true_and]
    set w₁ := w.withSpan (w.requestSpan i.provider q name)
    by_cases records : (i.provider == .recording) = true
    · have under : (w₁.under w.spans.next).Calm := calm.of_same rfl rfl rfl rfl
      obtain ⟨_, w₀, announced, -, -⟩ :=
        (succeeds_announce i.settings w.spans.next q).go under
      refine ⟨.recording w.spans.next w.context, w₀, ?_, ?_, records.symm⟩
      · rw [if_pos records, go_bind, go_change]
        dsimp only
        rw [go_bind_of_ok announced]
        rfl
      · rintro r ⟨⟩
        rfl
    · refine ⟨.sampledOut w.spans.next, w₁, by rw [if_neg records]; rfl, ?_,
        (Bool.eq_false_iff.2 records).symm⟩
      rintro r ⟨⟩
      rfl
  · refine ⟨.plain, w, by rw [lead, if_neg enabled]; rfl, ?_, ?_⟩
    · rintro r ⟨⟩
    · rw [Bool.eq_false_iff.2 enabled]
      rfl

/-! ## The whole -/

/-- A wrapper that reaches the call is transparent. -/
theorem transparent_of_path (calm : w.Calm)
    (named : i.settings.enabled.truthy = true → ∃ path, w.pathOf q = .ok path) :
    i.Transparent q w := by
  obtain ⟨l, w₀, reached, spans, records⟩ := exists_lead calm named
  refine ⟨w₀, fun outcome w₁ => (go (settle i.settings outcome l) w₁).2, ?_⟩
  intro σ κ send session arguments outcome w₁ called tells calm₁ sturdy
  have willing : ∀ r, l.span? = some r → (w₁.spans.get r).failing = [] := by
    intro r hr
    rw [spans r hr]
    exact sturdy
  have worded : l.records = true → HasMessage outcome := fun on => by
    rw [records, Bool.and_eq_true, beq_iff_eq] at on
    exact tells on.1 on.2
  obtain ⟨w', settled⟩ := go_settle_of_calm (s := i.settings) calm₁ willing worded
  rw [go_tracedSend_of_lead reached, called]
  dsimp only
  rw [settled]

/-- Without a path the wrapped function is not called, so the wrapper is not transparent. -/
theorem not_transparent_of_badAddress {f : Fault} (enabled : i.settings.enabled.truthy = true)
    (bad : w.pathOf q = .error f) : ¬ i.Transparent q w := by
  rintro ⟨w₀, after, transparent⟩
  -- a function that gives nothing and leaves an empty world, wherever it is called
  have given := transparent Unit Unit (fun _ _ _ => ofRun fun _ => (.ok none, .empty)) () ()
    (.ok none) .empty rfl (fun _ _ => hasMessage_ok none) calm_empty rfl
  rw [go_tracedSend_of_badAddress enabled bad] at given
  exact absurd (Prod.mk.inj given).1 (by simp)

/-- A wrapper whose spans record does not bring out a fault that has no message. -/
theorem exists_go_tracedSend_of_mute {f g : Fault} {path : String} (calm : w.Calm)
    (enabled : i.settings.enabled.truthy = true) (records : i.provider = .recording)
    (named : w.pathOf q = .ok path) (contained : f.interrupts = false)
    (mute : f.message = .error g) :
    ∃ w₀, ∀ (σ κ : Type) (send : Sending σ κ) (session : σ) (arguments : κ) (w₁ : World),
      go (send session q arguments) w₀ = (.error f, w₁) →
        ∃ w', go (tracedSend i send session q arguments) w = (.error g, w') := by
  obtain ⟨l, w₀, reached, -, recording⟩ := exists_lead calm fun _ => ⟨path, named⟩
  rw [enabled, records] at recording
  refine ⟨w₀, fun σ κ send session arguments w₁ called => ?_⟩
  rw [go_tracedSend_of_lead reached, called]
  cases l with
  | recording span present => exact go_settle_of_mute contained mute w₁
  | _ => exact Bool.noConfusion recording

/-- In a calm world a wrapper at work is transparent exactly for the addresses that have a path.
For every other address it fails as the address does, without any call and with the world
unchanged.  And if its spans record and the call comes to a fault that has no message, the fault that
is raised in place of the message comes out, which is another one. -/
theorem transparent_iff (calm : w.Calm) :
    (i.Transparent q w ↔
      (i.settings.enabled.truthy = true → ∃ path, w.pathOf q = .ok path)) ∧
    (∀ f, i.settings.enabled.truthy = true → w.pathOf q = .error f →
      ∀ (σ κ : Type) (send : Sending σ κ) (session : σ) (arguments : κ),
        go (tracedSend i send session q arguments) w = (.error f, w)) ∧
    ∀ f g path, i.settings.enabled.truthy = true → i.provider = .recording →
      w.pathOf q = .ok path → f.interrupts = false → f.message = .error g →
        g ≠ f ∧ ∃ w₀, ∀ (σ κ : Type) (send : Sending σ κ) (session : σ) (arguments : κ) (w₁ : World),
          go (send session q arguments) w₀ = (.error f, w₁) →
            ∃ w', go (tracedSend i send session q arguments) w = (.error g, w') := by
  refine ⟨⟨fun transparent enabled => ?_, transparent_of_path calm⟩, ?_, ?_⟩
  · cases path : w.pathOf q with
    | ok x => exact ⟨x, rfl⟩
    | error f => exact absurd transparent (not_transparent_of_badAddress enabled path)
  · intro f enabled bad σ κ send session arguments
    exact go_tracedSend_of_badAddress enabled bad send session arguments
  · intro f g path enabled records named contained mute
    exact ⟨Fault.ne_of_message mute,
      exists_go_tracedSend_of_mute calm enabled records named contained mute⟩

/-- An instrument that records requests. -/
def requestsOnly : Instrument :=
  ⟨{ CaptureSettings.standard with requests := .bool true }, .recording⟩

/-- A world with one request. -/
def addressed (url : String) : World :=
  { World.empty with requests := (Store.empty.alloc ⟨none, some url, some ⟨[]⟩, .absent⟩).2 }

theorem calm_addressed (url : String) : (addressed url).Calm := calm_empty.of_same rfl rfl rfl rfl

/-- An address with a path. -/
theorem transparent_iff_address : requestsOnly.Transparent ⟨0⟩ (addressed "mock://h/p;x?y") :=
  (transparent_iff (i := requestsOnly) (q := ⟨0⟩) (calm_addressed "mock://h/p;x?y")).1.2 fun _ =>
    ⟨"/p;x", rfl⟩

/-- An address with a bracket that is not closed. -/
theorem not_transparent_bracket :
    (addressed "mock://[").Calm ∧ ¬ requestsOnly.Transparent ⟨0⟩ (addressed "mock://[") :=
  ⟨calm_addressed "mock://[",
    not_transparent_of_badAddress (f := .misuse .value "Invalid IPv6 URL") rfl rfl⟩

end Act
end HttpTap
