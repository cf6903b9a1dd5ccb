import HttpTap.Proofs.Capture.Recording
import HttpTap.Proofs.Capture.Sparing
import HttpTap.Proofs.Exchange.Loaded

/-!
# The content of a response survives

The content of a response that is still on the wire is read to its end by `makeResponseRepeatable`,
which loads it (`go_makeResponseRepeatable_of_streams`).  From then on the content is held, and
what comes afterwards, the recording and the end of the span, leaves the response as it is
(`go_onEnd_of_held`).  A response that is loaded already is never touched, and neither is one whose
content is not to be recorded.
-/

namespace HttpTap

/-- The content of the response is still on the wire, and the raw stream delivers `c` to reads of at
most the size of a chunk. -/
structure World.Streams (w : World) (p : Ref Response) (c : Bytes) : Prop where
  unread : (w.responses.get p).content = .unread
  fresh : (w.responses.get p).consumed = false
  headers : ∃ h, (w.responses.get p).headers = some h
  delivers : (w.rawStream (w.responses.get p).raw).reader.Delivers streamChunkSize
    (w.rawStream (w.responses.get p).raw).state c

/-- What belongs to the program was not touched, and neither were the messages and the ways in
which spans fail. -/
structure World.Spared (w w' : World) : Prop extends World.Untouched w w' where
  messages : w'.messages = w.messages
  failing : ∀ r, (w'.spans.get r).failing = (w.spans.get r).failing

namespace World

variable {w w' w'' : World}

theorem Spared.refl (w : World) : w.Spared w := ⟨.refl w, rfl, fun _ => rfl⟩

theorem Spared.trans (h : w.Spared w') (h' : w'.Spared w'') : w.Spared w'' where
  toUntouched := h.toUntouched.trans h'.toUntouched
  messages := h'.messages.trans h.messages
  failing r := (h'.failing r).trans (h.failing r)

theorem Told.spared (h : w.Told w') : w.Spared w' := ⟨h.untouched, h.messages, h.failing⟩

theorem Consulted.spared (h : w.Consulted w') (untouched : w.Untouched w') : w.Spared w' :=
  ⟨untouched, h.messages, fun r => by rw [h.spans]⟩

end World

namespace Act

open World

variable {w w' : World} {s : CaptureSettings} {m : Ref Message} {p : Ref Response} {e : Ref Entity}
  {c : Bytes}

/-! ## Loading the content -/

/-- Assigning a copy to a response installs its bytes. -/
theorem go_setMessageEntity_response (message : w.messages.get m = .response (some p))
    (stored : ∃ type encoding, w.entities.get e = .stored false c type encoding) :
    go (setMessageEntity m (some e)) w = (.ok (), { w with
      responses := w.responses.set p
        { w.responses.get p with content := .held (.bytes c), consumed := true } }) := by
  obtain ⟨type, encoding, stored⟩ := stored
  have bytes : go (entityBytes e) w = (.ok (.bytes c), w) := by
    rw [entityBytes, go_bind, go_entity, stored]
    rfl
  rw [setMessageEntity, go_bind, go_view, message]
  dsimp only
  rw [go_bind_of_ok bytes]
  rfl

/-- Content on the wire is loaded, whatever the headers say about it. -/
theorem go_makeResponseRepeatable_of_streams (records : s.recordsResponses = true)
    (message : w.messages.get m = .response (some p)) (streams : w.Streams p c) :
    ∃ w', go (makeResponseRepeatable s (some m)) w = (.ok (), w') ∧ w'.Loaded p c ∧
      w'.messages = w.messages ∧ w'.spans = w.spans ∧ w.Spares (.raw p) w' := by
  obtain ⟨h, headers⟩ := streams.headers
  have entity := go_messageEntity_response message headers
  set w₁ : World := { w with entities := (w.entities.alloc (.responseBody p (h.lookup typeHeader)
    (h.lookup encodingHeader))).2 } with hw₁
  have hx : w₁.entities.get w.entities.next =
      .responseBody p (h.lookup typeHeader) (h.lookup encodingHeader) := Store.get_alloc_same _ _
  have delivers : (w₁.rawStream (w₁.responses.get p).raw).reader.Delivers streamChunkSize
      (w₁.rawStream (w₁.responses.get p).raw).state c :=
    of_rawStream_same (w := w) (P := fun reader state => reader.Delivers streamChunkSize state c)
      streams.delivers rfl
  have offers : w₁.Offers Value.maxCount w.entities.next false c :=
    offers_unread hx streams.unread streams.fresh
      (Feed.supplies_of_delivers delivers (show 0 < streamChunkSize by decide))
  have unheld : (w₁.responses.get p).content.isHeld = false :=
    congrArg Content.isHeld streams.unread
  have flagged : go (repeatable w.entities.next) w₁ =
      (.ok (.bool (w₁.responses.get p).content.isHeld), w₁) := go_repeatable hx rfl
  obtain ⟨e', w₃, repeated, copy⟩ := go_makeRepeatable (offers.mono (by decide))
    (show 0 < bufferChunkSize by decide)
  have consulted : w₁.Consulted w₃ :=
    (keeps_makeRepeatable w.entities.next bufferChunkSize).of_go repeated
  have origin : (Entity.responseBody p (h.lookup typeHeader) (h.lookup encodingHeader)).origin? w₁ =
      some (.raw p) := by
    rw [Entity.origin?, contentOrigin, unheld]
    rfl
  have spares : w₁.Spares (.raw p) w₃ := by
    have drawn := spares_makeRepeatable hx origin bufferChunkSize
    rw [repeated] at drawn
    exact drawn
  have installed := go_setMessageEntity_response (w := w₃) (m := m) (p := p) (e := e')
    (by rw [consulted.messages]; exact message) copy.holds
  refine ⟨{ w₃ with
      responses := w₃.responses.set p
        { w₃.responses.get p with content := .held (.bytes c), consumed := true } },
    ?_, ⟨?_, ?_, h, ?_⟩, consulted.messages, consulted.spans, ?_⟩
  · rw [makeResponseRepeatable, if_pos records, go_attempt, go_bind_of_ok entity]
    rw [go_bind_of_ok flagged]
    rw [if_neg (by rw [unheld]; exact Bool.false_ne_true), go_bind_of_ok repeated]
    rw [if_pos rfl, installed]
  · show ((w₃.responses.set p _).get p).content = _
    rw [Store.get_set_same]
  · show ((w₃.responses.set p _).get p).consumed = _
    rw [Store.get_set_same]
  · show ((w₃.responses.set p _).get p).headers = _
    rw [Store.get_set_same]
    exact (consulted.responses p).headers.trans headers
  · have made : w.Spares (.raw p) w₁ := spares_of_same rfl rfl rfl
    exact made.trans (spares.trans (spares_set_response w₃ p rfl))

/-! ## Held content -/

theorem spared_say (x : LogRecord) : Keeps Spared (say x) := fun w => (told_say x w).spared

/-- Content that is held is not read again. -/
theorem go_makeResponseRepeatable_of_held (message : w.messages.get m = .response (some p))
    (held : (w.responses.get p).content.isHeld = true) :
    ∃ w', go (makeResponseRepeatable s (some m)) w = (.ok (), w') ∧ w.Spared w' := by
  rw [makeResponseRepeatable]
  by_cases records : s.recordsResponses = true
  · rw [if_pos records]
    cases headers : (w.responses.get p).headers with
    | none =>
      have failed := go_messageEntity_headless message headers
      refine ⟨_, ?_, spared_say (.contained recorderChannel
        "Failed to make response entity repeatable" (.noMember "NoneType" "get")) w⟩
      rw [go_attempt, go_bind_of_error failed]
      rfl
    | some h =>
      have entity := go_messageEntity_response message headers
      set w₁ : World := { w with entities := (w.entities.alloc (.responseBody p
        (h.lookup typeHeader) (h.lookup encodingHeader))).2 } with hw₁
      have flagged : go (repeatable w.entities.next) w₁ =
          (.ok (.bool (w₁.responses.get p).content.isHeld), w₁) :=
        go_repeatable (x := .responseBody p _ _) (Store.get_alloc_same _ _) rfl
      refine ⟨w₁, ?_, ⟨rfl, rfl, rfl, .refl _⟩, rfl, fun _ => rfl⟩
      rw [go_attempt, go_bind_of_ok entity, go_bind_of_ok flagged]
      rw [show (Value.bool (w₁.responses.get p).content.isHeld).truthy = true from held]
      rfl
  · exact ⟨w, by rw [if_neg records]; rfl, .refl w⟩

/-- Recording a response is a capture, and after the swap the span is told. -/
theorem go_onEnd_of_capture {t : Target} {w₁ w₂ w₃ : World} {e : Option (Ref Entity)}
    {captured : CaptureResult} (records : s.recordsResponses = true)
    (entity : go (orNothing (messageEntity m) none) w = (.ok e, w₁))
    (capture : go (capture s.limit bufferChunkSize e) w₁ = (.ok captured, w₂))
    (swapped : go (if captured.replaced then setMessageEntity m captured.entity else pure ()) w₂ =
      (.ok (), w₃)) :
    ∃ w', go (onEnd s t (some m)) w = (.ok (), w') ∧ w₃.Told w' := by
  obtain ⟨w', recorded, told⟩ :=
    go_recordMessage_of_capture t "response" responseKeys entity capture swapped
  refine ⟨w', ?_, told⟩
  rw [onEnd, if_pos records]
  rw [← records] at recorded
  exact recorded

/-- Recording a response whose content is held leaves it as it is. -/
theorem go_onEnd_of_held {t : Target} (message : w.messages.get m = .response (some p))
    (held : (w.responses.get p).content.isHeld = true) :
    ∃ w', go (onEnd s t (some m)) w = (.ok (), w') ∧ w.Spared w' := by
  by_cases records : s.recordsResponses = true
  · have result : ∃ e w₁ captured w₂, go (orNothing (messageEntity m) none) w = (.ok e, w₁) ∧
        w.Spared w₁ ∧ go (capture s.limit bufferChunkSize e) w₁ = (.ok captured, w₂) ∧
        w₁.Untouched w₂ ∧ captured.replaced = false := by
      cases headers : (w.responses.get p).headers with
      | none =>
        have failed := go_messageEntity_headless message headers
        exact ⟨none, w, ⟨none, none, false⟩, w, go_orNothing_of_member failed, .refl w, rfl,
          .refl w, rfl⟩
      | some h =>
        have entity := go_messageEntity_response message headers
        set w₁ : World := { w with entities := (w.entities.alloc (.responseBody p
          (h.lookup typeHeader) (h.lookup encodingHeader))).2 } with hw₁
        obtain ⟨captured, w₂, capture, untouched⟩ := go_capture_of_held (w := w₁)
          bufferChunkSize (Store.get_alloc_same _ _) rfl held s.limit_pos
        have made : w.Spared w₁ := ⟨⟨rfl, rfl, rfl, .refl _⟩, rfl, fun _ => rfl⟩
        exact ⟨_, w₁, _, w₂, go_orNothing_of_ok entity, made, capture, untouched, rfl⟩
    obtain ⟨e, w₁, captured, w₂, entity, made, capture, untouched, kept⟩ := result
    have consulted : w₁.Consulted w₂ := (keeps_capture s.limit bufferChunkSize e).of_go capture
    have unswapped : go (if captured.replaced then setMessageEntity m captured.entity else pure ())
        w₂ = (.ok (), w₂) := by
      rw [kept]
      rfl
    obtain ⟨w', recorded, told⟩ := go_onEnd_of_capture (t := t) records entity capture unswapped
    exact ⟨w', recorded, made.trans ((consulted.spared untouched).trans told.spared)⟩
  · exact ⟨w, by rw [onEnd, if_neg records]; rfl, .refl w⟩

end Act
end HttpTap
