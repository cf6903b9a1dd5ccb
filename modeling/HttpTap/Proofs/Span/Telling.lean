import HttpTap.Capture.Handler
import HttpTap.Proofs.Entity.Consulting
import HttpTap.Proofs.World.Safety

/-!
# Telling spans and sinks

Telling a span or a sink something changes the span or the sink, the trace and the log, and nothing
else (`World.Told`).  The lemmas say so of every relation that allows such changes: of a
`World.TellingFrame`, and where a span ends, of a `World.EndingFrame`.

A probe may fail when it is told something, and a sink may; none of these faults is an interrupt,
so a guard contains them all.

Ending a span fails only on a probe that was told to fail there (`go_finishSpan`).
-/

namespace HttpTap

/-- The methods in which a span fails. -/
def Span.failing : Span → List SpanMethod
  | .probe p => p.failing
  | .live _ => []

/-- Nothing was done but telling spans and sinks something. -/
structure World.Told (w w' : World) : Prop where
  sources : w'.sources = w.sources
  iterators : w'.iterators = w.iterators
  streams : w'.streams = w.streams
  entities : w'.entities = w.entities
  requests : w'.requests = w.requests
  responses : w'.responses = w.responses
  messages : w'.messages = w.messages
  instruments : w'.instruments = w.instruments
  context : w'.context = w.context
  failing : ∀ r, (w'.spans.get r).failing = (w.spans.get r).failing

/-- The message is a response of the client library. -/
def World.IsResponse (w : World) (m : Ref Message) : Prop :=
  ∃ p, w.messages.get m = .response p

namespace World

variable {w w' w'' : World}

theorem Told.refl (w : World) : w.Told w :=
  ⟨rfl, rfl, rfl, rfl, rfl, rfl, rfl, rfl, rfl, fun _ => rfl⟩

theorem Told.trans (h : w.Told w') (h' : w'.Told w'') : w.Told w'' where
  sources := h'.sources.trans h.sources
  iterators := h'.iterators.trans h.iterators
  streams := h'.streams.trans h.streams
  entities := h'.entities.trans h.entities
  requests := h'.requests.trans h.requests
  responses := h'.responses.trans h.responses
  messages := h'.messages.trans h.messages
  instruments := h'.instruments.trans h.instruments
  context := h'.context.trans h.context
  failing r := (h'.failing r).trans (h.failing r)

instance : IsPreorder World Told where
  refl := .refl
  trans _ _ _ := .trans

theorem Told.untouched (h : w.Told w') : w.Untouched w' :=
  ⟨h.requests, h.responses, h.iterators, h.sources ▸ .refl _⟩

end World

/-! ## Frames of telling -/

namespace World

/-- A preorder that allows spans and sinks to be told something.  A span that has not ended goes on
without having ended. -/
class TellingFrame (R : World → World → Prop) : Prop extends IsPreorder World R where
  setProbe : ∀ w q p p', w.spans.get q = .probe p → p'.failing = p.failing →
    R w { w with spans := w.spans.set q (.probe p') }
  setRunning : ∀ w q s s', w.spans.get q = .live s →
    (s.ended = false → s'.ended = s.ended ∧ s'.late = s.late) →
    R w { w with spans := w.spans.set q (.live s') }
  setSink : ∀ w q x, R w { w with sinks := w.sinks.set q x }
  noted : ∀ w e, R w (w.note e)

/-- A frame that allows a span to end as well. -/
class EndingFrame (R : World → World → Prop) : Prop extends TellingFrame R where
  setLive : ∀ w q s s', w.spans.get q = .live s →
    R w { w with spans := w.spans.set q (.live s') }
  finished : ∀ w q, R w { w with finished := q :: w.finished }

end World

namespace Act

open World

variable {w : World} {r : Ref Span}

/-! ## Nothing else changes -/

/-- Putting a span in the place of one that fails in the same methods. -/
theorem told_set {s : Span} (same : s.failing = (w.spans.get r).failing) :
    w.Told { w with spans := w.spans.set r s } := by
  refine ⟨rfl, rfl, rfl, rfl, rfl, rfl, rfl, rfl, rfl, fun q => ?_⟩
  by_cases this : q = r
  · subst this
    show ((w.spans.set q s).get q).failing = _
    rw [Store.get_set_same]
    exact same
  · show ((w.spans.set r s).get q).failing = _
    rw [Store.get_set_other this]

theorem told_say (x : LogRecord) : Keeps Told (say x) :=
  keeps_change fun _ => ⟨rfl, rfl, rfl, rfl, rfl, rfl, rfl, rfl, rfl, fun _ => rfl⟩

instance : EndingFrame Told where
  setProbe w q p p' found same := told_set (by rw [found]; exact same)
  setRunning w q s s' found _ := told_set (by rw [found]; rfl)
  setSink _ _ _ := ⟨rfl, rfl, rfl, rfl, rfl, rfl, rfl, rfl, rfl, fun _ => rfl⟩
  noted _ _ := ⟨rfl, rfl, rfl, rfl, rfl, rfl, rfl, rfl, rfl, fun _ => rfl⟩
  setLive w q s s' found := told_set (by rw [found]; rfl)
  finished _ _ := ⟨rfl, rfl, rfl, rfl, rfl, rfl, rfl, rfl, rfl, fun _ => rfl⟩

section Keeps

variable {R : World → World → Prop} [TellingFrame R]

theorem keeps_callProbe (p : Probe) (c : SpanCall) : Keeps R (callProbe p c) := by
  refine Keeps.bind (keeps_change fun w => TellingFrame.noted w _) fun _ => ?_
  split
  · exact keeps_throw _
  · exact keeps_pure _

theorem keeps_setAttribute (r : Ref Span) (key : String) (v : Value) :
    Keeps R (setAttribute r key v) := by
  intro w
  rw [setAttribute, go_bind, go_view]
  cases found : w.spans.get r with
  | probe p =>
    have kept : R w { w with spans := w.spans.set r (.probe ⟨p.failing, (key, v) :: p.values⟩) } :=
      TellingFrame.setProbe w r p _ found rfl
    exact trans_of R kept (keeps_callProbe p (.setAttribute key) _)
  | live s =>
    refine TellingFrame.setRunning w r s _ found fun running => ?_
    rw [LiveSpan.setAttribute, if_neg (by rw [running]; exact Bool.false_ne_true)]
    exact ⟨rfl, rfl⟩

theorem keeps_setError (r : Ref Span) (description : String) : Keeps R (setError r description) := by
  intro w
  rw [setError, go_bind, go_view]
  cases found : w.spans.get r with
  | probe p => exact keeps_callProbe p _ w
  | live s =>
    refine TellingFrame.setRunning w r s _ found fun running => ?_
    rw [LiveSpan.setError, if_neg (by rw [running]; exact Bool.false_ne_true)]
    exact ⟨rfl, rfl⟩

theorem keeps_noteFault (r : Ref Span) (f : Fault) : Keeps R (noteFault r f) := by
  intro w
  rw [noteFault, go_bind, go_view]
  cases found : w.spans.get r with
  | probe p => exact keeps_pure _ w
  | live s =>
    refine TellingFrame.setRunning w r s _ found fun running => ?_
    rw [LiveSpan.note, if_neg (by rw [running]; exact Bool.false_ne_true)]
    exact ⟨rfl, rfl⟩

/-- Putting an attribute tells the span or the sink. -/
theorem keeps_putAttribute (t : Target) (key : String) (v : Value) :
    Keeps R (putAttribute t key v) := by
  cases t with
  | span r => exact keeps_setAttribute r key v
  | sink r =>
    refine (keeps_view _).bind fun s => ?_
    split
    · exact keeps_throw _
    · exact keeps_change fun w => TellingFrame.setSink w r _

theorem keeps_putAttributes (t : Target) (attributes : List (String × Value)) :
    Keeps R (putAttributes t attributes) := by
  have put : ∀ a : String × Value, Keeps R (putAttribute t a.1 a.2) :=
    fun a => keeps_putAttribute t a.1 a.2
  exact Keeps.forM put attributes

theorem keeps_tellStatus (r : Ref Span) (m : Option (Ref Message)) :
    Keeps R (tellStatus r m) := by
  cases m with
  | none => exact keeps_pure _
  | some m =>
    refine (keeps_messageStatus m).bind fun status => ?_
    dsimp only
    split
    · exact keeps_pure _
    · refine (keeps_setAttribute r _ _).bind fun _ => ?_
      split
      · exact (keeps_lift _).bind fun _ => keeps_setError r _
      · exact keeps_pure _

theorem keeps_finishSpan {R : World → World → Prop} [EndingFrame R] (r : Ref Span) :
    Keeps R (finishSpan r) := by
  intro w
  rw [finishSpan, go_bind, go_view]
  cases found : w.spans.get r with
  | probe p => exact keeps_callProbe p _ w
  | live s =>
    have kept : R w { w with spans := w.spans.set r (.live s.finish) } :=
      EndingFrame.setLive w r s _ found
    refine trans_of R kept ?_
    show R _ (go (if s.recording && !s.ended then _ else _) _).2
    split
    · exact EndingFrame.finished _ r
    · exact refl_of R _

end Keeps

/-! ## The faults of spans and sinks -/

theorem safe_callProbe (p : Probe) (c : SpanCall) :
    Safe (fun _ => True) (fun _ => True) (callProbe p c) := by
  refine (safe_change fun _ _ => trivial).bind fun _ _ => ?_
  split
  · exact safe_throw rfl
  · exact safe_pure trivial

theorem safe_setAttribute (r : Ref Span) (key : String) (v : Value) :
    Safe (fun _ => True) (fun _ => True) (setAttribute r key v) := by
  refine (safe_view (Q := fun _ => True) fun _ _ => trivial).bind fun span _ => ?_
  cases span with
  | probe p => exact (safe_change fun _ _ => trivial).bind fun _ _ => safe_callProbe p _
  | live s => exact safe_change fun _ _ => trivial

theorem safe_setError (r : Ref Span) (description : String) :
    Safe (fun _ => True) (fun _ => True) (setError r description) := by
  refine (safe_view (Q := fun _ => True) fun _ _ => trivial).bind fun span _ => ?_
  cases span with
  | probe p => exact safe_callProbe p _
  | live s => exact safe_change fun _ _ => trivial

theorem safe_putAttribute (t : Target) (key : String) (v : Value) :
    Safe (fun _ => True) (fun _ => True) (putAttribute t key v) := by
  cases t with
  | span r => exact safe_setAttribute r key v
  | sink r =>
    refine (safe_view (Q := fun _ => True) fun _ _ => trivial).bind fun s _ => ?_
    split
    · exact safe_throw rfl
    · exact safe_change fun _ _ => trivial

theorem safe_putAttributes (t : Target) (attributes : List (String × Value)) :
    Safe (fun _ => True) (fun _ => True) (putAttributes t attributes) := by
  have put : ∀ a ∈ attributes,
      Safe (fun _ => True) (fun _ => True) (putAttribute t a.1 a.2) :=
    fun a _ => safe_putAttribute t a.1 a.2
  exact Safe.forM attributes put

/-! ## Spans that do not fail -/

theorem go_callProbe {p : Probe} {c : SpanCall} (willing : c.method ∉ p.failing) :
    (go (callProbe p c) w).1 = .ok () := by
  have calm : p.failing.contains c.method = false := by simpa using willing
  rw [callProbe, calm]
  rfl

/-- The error status is set without a fault unless the span is a probe that fails there. -/
theorem go_setError (willing : SpanMethod.setStatus ∉ (w.spans.get r).failing)
    (description : String) :
    ∃ w', go (setError r description) w = (.ok (), w') ∧ w.Told w' := by
  refine (keeps_setError r description).exists_go ?_
  rw [setError, go_bind, go_view]
  cases span : w.spans.get r with
  | probe p =>
    rw [span] at willing
    exact go_callProbe (c := .setError description) willing
  | live s => rfl

/-- A fault can be noted on every span. -/
theorem go_noteFault (r : Ref Span) (f : Fault) (w : World) :
    ∃ w', go (noteFault r f) w = (.ok (), w') ∧ w.Told w' := by
  refine (keeps_noteFault r f).exists_go ?_
  rw [noteFault, go_bind, go_view]
  cases w.spans.get r <;> rfl

/-- A span ends without a fault unless it is a probe that fails there. -/
theorem go_finishSpan (willing : SpanMethod.finish ∉ (w.spans.get r).failing) :
    ∃ w', go (finishSpan r) w = (.ok (), w') ∧ w.Told w' := by
  refine (keeps_finishSpan r).exists_go ?_
  rw [finishSpan, go_bind, go_view]
  cases span : w.spans.get r with
  | probe p =>
    rw [span] at willing
    exact go_callProbe (c := .finish) willing
  | live s =>
    show (go (setSpan r (.live s.finish) >>= fun _ => _) w).1 = _
    rw [go_bind]
    show (go (if s.recording && !s.ended then _ else _) _).1 = _
    split <;> rfl

/-! ## Closing the span of a response -/

section Response

variable {m : Ref Message}

theorem safe_messageStatus (m : Ref Message) :
    Safe (fun w => w.IsResponse m) (fun _ => True) (messageStatus m) := by
  refine (safe_view (Q := fun x => ∃ p, x = Message.response p) fun _ h => h).bind fun x hx => ?_
  obtain ⟨p, rfl⟩ := hx
  cases p with
  | none => exact safe_pure trivial
  | some p =>
    exact (safe_view (Q := fun _ => True) fun _ _ => trivial).bind fun _ _ => safe_pure trivial

/-- A number that cannot be written is no interrupt. -/
theorem contained_statusText (n : Int) : Contained (fun _ => True) (statusText n) := by
  unfold statusText
  split
  · trivial
  · rfl

/-- If the status can be read, it can be told to any span, or the fault is contained. -/
theorem safe_tellStatus {P : World → Prop} (r : Ref Span)
    (read : Safe P (fun _ => True) (messageStatus m))
    (respects : ∀ w w', w.Told w' → P w → P w') :
    Safe P (fun _ => True) (tellStatus r (some m)) := by
  refine read.bind fun status _ => ?_
  dsimp only
  split
  · exact safe_pure trivial
  · have set (key : String) (v : Value) : Safe P (fun _ => True) (setAttribute r key v) :=
      (safe_setAttribute r key v).of_keeps (keeps_setAttribute r key v) respects
    refine (set _ _).bind fun _ _ => ?_
    split
    · refine (safe_lift (Q := fun _ => True) (contained_statusText _)).bind fun text _ => ?_
      exact (safe_setError r text).of_keeps (keeps_setError r text) respects
    · exact safe_pure trivial

theorem Told.isResponse {w w' : World} (told : w.Told w') (response : w.IsResponse m) :
    w'.IsResponse m := by
  rw [IsResponse, told.messages]
  exact response

/-- The span of a response is closed without a fault unless it is a probe that fails to end. -/
theorem go_closeSpan (response : w.IsResponse m)
    (willing : SpanMethod.finish ∉ (w.spans.get r).failing) :
    ∃ w', go (closeSpan r (some m)) w = (.ok (), w') ∧ w.Told w' := by
  have guarded : Succeeds (fun w => w.IsResponse m) (fun _ => True)
      (attempt (tellStatus r (some m)) fun f =>
        say (.contained handlerChannel "Failed to set span status from response" f)) :=
    (safe_tellStatus r (safe_messageStatus m) fun _ _ => Told.isResponse).succeeds
      fun _ _ => succeeds_change fun _ h => h
  obtain ⟨_, w₁, attempted, -, -⟩ := guarded.go response
  have status : w.Told w₁ :=
    ((keeps_tellStatus r (some m)).attempt fun _ => told_say _).of_go attempted
  have still : SpanMethod.finish ∉ (w₁.spans.get r).failing := by
    rw [status.failing]
    exact willing
  obtain ⟨w', finished, told⟩ := go_finishSpan still
  refine ⟨w', ?_, status.trans told⟩
  rw [closeSpan, go_ensuring, attempted, finished]

end Response

end Act
end HttpTap
