import HttpTap.Proofs.Capture.ResponseBody
import HttpTap.Proofs.Exchange.Settling

/-!
# A sent request and the content of its response

The wrapper around the sending function hands the response on that it was given, and whoever reads
the response afterwards gets the content that the wire delivered (`tracedSend_preserves_content`).

Of the steps after the call the buffering loads the content, and the later ones spare what is
loaded (`go_handleResponse_of_held`).  There is only one way in which this can end in a fault: the
span itself fails to end.
-/

namespace HttpTap

namespace Act

open World

variable {σ κ : Type} {w w₀ w₁ : World} {s : CaptureSettings} {p : Ref Response}
  {m : Ref Message} {span : Ref Span} {present : Context} {c : Bytes}

/-! ## After the buffering -/

/-- From where the content is held and stays as it is, the recording and the end of the span lead
to the response. -/
theorem go_handleResponse_of_held (present : Context)
    (buffered : go (makeResponseRepeatable s (some m)) w = (.ok (), w₁))
    (message : w₁.messages.get m = .response (some p))
    (held : (w₁.responses.get p).content.isHeld = true ∨ s.recordsResponses = false)
    (willing : SpanMethod.finish ∉ (w₁.spans.get span).failing) :
    ∃ w', go (handleResponse s span (some present) (some m) (pure (some p))) w =
      (.ok (some p), w') ∧ w₁.Spared w' := by
  have ending : ∃ w₂, go (onEnd s (.span span) (some m)) w₁ = (.ok (), w₂) ∧ w₁.Spared w₂ := by
    rcases held with held | off
    · exact go_onEnd_of_held message held
    · exact ⟨w₁, by rw [onEnd, off]; rfl, .refl w₁⟩
  obtain ⟨w₂, recorded, spared⟩ := ending
  obtain ⟨w₃, closed, told⟩ := go_closeSpan (w := w₂) (r := span) (m := m)
    ⟨some p, by rw [spared.messages]; exact message⟩ (by rw [spared.failing]; exact willing)
  refine ⟨w₃, ?_, spared.trans told.spared⟩
  rw [go_handleResponse buffered recorded closed]
  exact go_within_pure _ _

/-! ## The content of the response -/

/-- Content on the wire is loaded, and from then on it is what every reading gives. -/
theorem go_settle_of_streams (records : s.recordsResponses = true) (streams : w.Streams p c)
    (willing : SpanMethod.finish ∉ (w.spans.get span).failing) :
    ∃ w', go (settle s (.ok (some p)) (.recording span present)) w = (.ok (some p), w') ∧
      w'.YieldsAlways p c := by
  have waiting : (w.returned present (some p)).Streams p c :=
    ⟨streams.unread, streams.fresh, streams.headers,
      of_rawStream_same (w := w) (P := fun reader state => reader.Delivers streamChunkSize state c)
        streams.delivers rfl⟩
  obtain ⟨w₁, buffered, loaded, messages, spans, -⟩ :=
    go_makeResponseRepeatable_of_streams records (get_returned w present (some p)) waiting
  have message : w₁.messages.get w.messages.next = .response (some p) := by
    rw [messages]
    exact get_returned w present (some p)
  obtain ⟨w', handled, spared⟩ := go_handleResponse_of_held present buffered message
    (.inl (by rw [loaded.content]; rfl)) (by rw [spans]; exact willing)
  refine ⟨w', ?_, (loaded.of_responses spared.responses).yieldsAlways⟩
  rw [go_settle_recording]
  exact handled

/-- Content that is held, or is not to be recorded, is not touched. -/
theorem go_settle_of_held
    (held : (w.responses.get p).content.isHeld = true ∨ s.recordsResponses = false)
    (willing : SpanMethod.finish ∉ (w.spans.get span).failing) :
    ∃ w', go (settle s (.ok (some p)) (.recording span present)) w = (.ok (some p), w') ∧
      w.Untouched w' := by
  have message := get_returned w present (some p)
  have buffering : ∃ w₁, go (makeResponseRepeatable s (some w.messages.next))
      (w.returned present (some p)) = (.ok (), w₁) ∧ (w.returned present (some p)).Spared w₁ := by
    rcases held with held | off
    · exact go_makeResponseRepeatable_of_held message held
    · exact ⟨_, by rw [makeResponseRepeatable, off]; rfl, .refl _⟩
  obtain ⟨w₁, buffered, spared⟩ := buffering
  obtain ⟨w', handled, later⟩ := go_handleResponse_of_held (p := p) present buffered
    (by rw [spared.messages]; exact message) (by rw [spared.responses]; exact held)
    (by rw [spared.failing]; exact willing)
  refine ⟨w', ?_, ?_⟩
  · rw [go_settle_recording]
    exact handled
  · have start : w.Untouched (w.returned present (some p)) := ⟨rfl, rfl, rfl, .refl _⟩
    exact start.trans (spared.trans later).toUntouched

/-- Without a span that records the response goes through. -/
theorem go_settle_of_unrecorded {l : Lead} (unrecorded : l.records = false)
    (willing : w.Willing l) :
    ∃ w', go (settle s (.ok (some p)) l) w = (.ok (some p), w') ∧ w.Untouched w' := by
  cases l with
  | plain => exact ⟨w, rfl, .refl w⟩
  | sampledOut span =>
    obtain ⟨w', finished, told⟩ := go_finishSpan (willing span rfl)
    refine ⟨w', ?_, told.untouched⟩
    rw [settle, go_ensuring, go_lift, finished]
  | recording span present => exact absurd unrecorded Bool.noConfusion

/-- A response that was sent for under a span is the one that the wrapped function gave.  If its
content was still on the wire, it has been read, and every later reading gives what the wire
delivered; if it was loaded already or is not to be recorded, neither it nor anything else that
belongs to the program was touched. -/
theorem tracedSend_preserves_content {i : Instrument} {q : Ref Request} {l : Lead}
    {send : Sending σ κ} {session : σ} {arguments : κ} (reached : go (lead i q) w = (.ok l, w₀))
    (sent : go (send session q arguments) w₀ = (.ok (some p), w₁)) (willing : w₁.Willing l) :
    (∀ c, l.records = true → i.settings.recordsResponses = true → w₁.Streams p c →
      ∃ w', go (tracedSend i send session q arguments) w = (.ok (some p), w') ∧
        w'.YieldsAlways p c) ∧
    (l.records = false ∨ (w₁.responses.get p).content.isHeld = true ∨
      i.settings.recordsResponses = false →
        ∃ w', go (tracedSend i send session q arguments) w = (.ok (some p), w') ∧
          w₁.Untouched w') := by
  rw [go_tracedSend_of_lead reached, sent]
  cases hl : l with
  | recording span present =>
    have ends := willing span (by rw [hl]; rfl)
    constructor
    · intro c _ records streams
      exact go_settle_of_streams records streams ends
    · rintro (unrecorded | held)
      · exact absurd unrecorded Bool.noConfusion
      · exact go_settle_of_held held ends
  | _ =>
    refine ⟨fun _ records => absurd records Bool.noConfusion, fun _ => ?_⟩
    exact go_settle_of_unrecorded rfl (hl ▸ willing)

/-- A request, and a response whose headers do not fit the three bytes that are on the wire. -/
def download : World := { World.empty with
  sources := (Store.empty.alloc
    (.ofStandIn ⟨"raw", .data [104, 105, 33] (some 1) none, false, none, true, []⟩)).2
  requests := (Store.empty.alloc ⟨none, some "mock://h/p", some ⟨[]⟩, .absent⟩).2
  responses := (Store.empty.alloc ⟨.int 200, some ⟨[("Content-Length", .text "99"),
    ("Content-Encoding", .text "gzip")]⟩, .unread, false, some ⟨0⟩⟩).2 }

/-- An instrument that records responses. -/
def responsesOnly : Instrument :=
  ⟨{ CaptureSettings.standard with responses := .bool true }, .recording⟩

/-- A function that answers every request with the first response. -/
def answering : Sending Unit Unit := fun _ _ _ => pure (some ⟨0⟩)

/-- The response comes back, and its content is read as often as one likes. -/
theorem tracedSend_preserves_content_download :
    ∃ w', go (tracedSend responsesOnly answering () ⟨0⟩ ()) download = (.ok (some ⟨0⟩), w') ∧
      w'.YieldsAlways ⟨0⟩ [104, 105, 33] := by
  have named : spanName (methodName (download.requests.get ⟨0⟩)) "mock://h/p" = .ok "GET /p" := by
    decide +kernel
  set w₁ := download.withSpan (download.requestSpan .recording ⟨0⟩ "GET /p")
  obtain ⟨w₀, announced, sources, responses, spans⟩ : ∃ w₀,
      go (announce responsesOnly.settings ⟨0⟩ ⟨0⟩) (w₁.under ⟨0⟩) = (.ok (), w₀) ∧
        w₀.sources = download.sources ∧ w₀.responses = download.responses ∧
        w₀.spans = w₁.spans := ⟨_, rfl, rfl, rfl, rfl⟩
  have reached : go (lead responsesOnly ⟨0⟩) download =
      (.ok (.recording ⟨0⟩ ⟨none, none⟩), w₀) := by
    have enabled : responsesOnly.settings.enabled.truthy = true := rfl
    rw [lead, if_pos enabled, go_starting_of_name named]
    show go (announce responsesOnly.settings ⟨0⟩ ⟨0⟩ >>= fun _ => _) (w₁.under ⟨0⟩) = _
    rw [go_bind_of_ok announced]
    rfl
  have willing : w₀.Willing (.recording ⟨0⟩ ⟨none, none⟩) := by
    rintro r ⟨⟩
    rw [spans]
    exact List.not_mem_nil
  have sent : go (answering () ⟨0⟩ ()) w₀ = (.ok (some ⟨0⟩), w₀) := rfl
  have preserved := tracedSend_preserves_content reached sent willing
  refine preserved.1 [104, 105, 33] rfl rfl ⟨by rw [responses]; rfl, by rw [responses]; rfl,
    by rw [responses]; exact ⟨_, rfl⟩, ?_⟩
  rw [responses]
  refine of_rawStream_same (w := download)
    (P := fun reader state => reader.Delivers streamChunkSize state _) ?_ sources
  exact (StandIn.delivers (d := ⟨"raw", .data [104, 105, 33] (some 1) none, false, none, true, []⟩)
    rfl rfl (by decide) streamChunkSize).embed Ground.embeds_standIn

end Act
end HttpTap
