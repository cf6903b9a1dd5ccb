import HttpTap.Proofs.Capture.BufferFirst
import HttpTap.Proofs.Exchange.ResponseContent
import HttpTap.Proofs.Span.Live

/-!
# What reaches a span

A span is told the method and the address of a request, what is recorded of the two bodies, and the
status of the response.  Compare two requests that were sent under the same settings and agree in
all of these.  Their bodies need only be of the same kind and as long, and agree up to the limit if
they are recorded; if they are not recorded they may be whatever they like.  Then the two spans
carry the same (`Exchange.spansAlike_of_agrees`), and of a body that is not recorded nothing was
read.

The two runs are never looked at together.  What the first part of a wrapper leaves on its span is
settled by the request and what is recorded of it (`opened_of_lead`), and what the second part adds
is settled by the response in the same way (`exists_settle_live`).  The wrapped function runs in
between.  It may do with its span what it likes, as long as it does the same to spans that are
alike.
-/

namespace HttpTap

namespace CaptureSettings

/-- The attributes of a request whose body reads as `c`, if requests are recorded. -/
def ofRequest (s : CaptureSettings) (q : Request) (c : Bytes) : List (String × Value) :=
  if s.recordsRequests then q.recorded s.limit c else []

/-- The attributes of a response whose content reads as `c`, if responses are recorded. -/
def ofResponse (s : CaptureSettings) (p : Response) (c : Bytes) : List (String × Value) :=
  if s.recordsResponses then p.recorded s.limit c else []

end CaptureSettings

/-- What is told to the span of a request at the end. -/
def LiveSpan.close (x : LiveSpan) (records : Bool) (attributes : List (String × Value))
    (status : Value) : LiveSpan :=
  if records then ((x.putAll attributes).tell status).finish else x.finish

theorem LiveSpan.Like.close {x y : LiveSpan} (alike : x.Like y) (records : Bool)
    (attributes : List (String × Value)) (status : Value) :
    (x.close records attributes status).Like (y.close records attributes status) := by
  unfold LiveSpan.close
  split
  · exact ((alike.putAll attributes).tell status).finish
  · exact alike.finish

namespace World

/-- A body with this origin is all that was drawn on, if it is recorded; otherwise nothing was drawn
on, and no stream was opened. -/
structure DrawsIf (recorded : Bool) (o : Origin) (w w' : World) : Prop where
  spares : w.Spares (if recorded then o else .memory) w'
  unopened : recorded = false → w'.streams = w.streams

/-- The two requests have no spans, or spans that keep the same. -/
def SpansAlike (w : World) (l : Lead) (w' : World) (l' : Lead) : Prop :=
  l.span? = none ∧ l'.span? = none ∨
    ∃ r r' x y, l.span? = some r ∧ l'.span? = some r' ∧
      w.spans.get r = .live x ∧ w'.spans.get r' = .live y ∧ x.Like y

variable {w w' w'' : World} {recorded : Bool} {o : Origin}

theorem SpansAlike.lively {l l' : Lead} (h : w.SpansAlike l w' l') :
    (∀ r, l.span? = some r → ∃ x, w.spans.get r = .live x) ∧
      ∀ r, l'.span? = some r → ∃ x, w'.spans.get r = .live x := by
  rcases h with ⟨spanless, spanless'⟩ | ⟨r, r', x, y, span, span', live, live', -⟩
  · rw [spanless, spanless']
    exact ⟨nofun, nofun⟩
  · refine ⟨fun q is => ?_, fun q is => ?_⟩
    · obtain rfl := Option.some.inj (span.symm.trans is)
      exact ⟨x, live⟩
    · obtain rfl := Option.some.inj (span'.symm.trans is)
      exact ⟨y, live'⟩

/-- The spans of two requests with the same method and the same address are alike. -/
theorem like_requestSpan {q q' : Ref Request}
    (method : (w'.requests.get q').method = (w.requests.get q).method)
    (url : (w'.requests.get q').url = (w.requests.get q).url) (provider : Provider)
    (name : String) :
    (w.requestSpan provider q name).Like (w'.requestSpan provider q' name) := by
  refine ⟨w'.currentName, ?_⟩
  rw [requestSpan, requestSpan, Act.methodName, Act.methodName, method, url]

theorem Told.drawsIf (h : w.Told w') (recorded : Bool) (o : Origin) : w.DrawsIf recorded o w' :=
  ⟨h.untouched.spares _, fun _ => h.streams⟩

theorem DrawsIf.of_same (sources : w'.sources = w.sources) (iterators : w'.iterators = w.iterators)
    (responses : w'.responses = w.responses) (streams : w'.streams = w.streams) :
    w.DrawsIf recorded o w' :=
  ⟨spares_of_same sources iterators responses, fun _ => streams⟩

theorem DrawsIf.trans (h : w.DrawsIf recorded o w') (h' : w'.DrawsIf recorded o w'') :
    w.DrawsIf recorded o w'' :=
  ⟨h.spares.trans h'.spares, fun off => (h'.unopened off).trans (h.unopened off)⟩

end World

namespace Act

open World

variable {w w₀ : World} {s : CaptureSettings} {i : Instrument} {q : Ref Request} {p : Ref Response}
  {m : Ref Message} {l : Lead} {r : Ref Span} {x : LiveSpan} {c : Bytes}

/-! ## Before the call -/

/-- Announcing a request puts what is recorded of it. -/
theorem exists_announce_live (live : w.spans.get r = .live x)
    (reads : s.recordsRequests = true → w.Reads c (w.requests.get q).body) :
    ∃ w', go (announce s r q) w = (.ok (), w') ∧
      w'.spans.get r = .live (x.putAll (s.ofRequest (w.requests.get q) c)) ∧
      w.DrawsIf s.recordsRequests (w.requests.get q).body.origin w' := by
  set w₁ : World := { w with messages := (w.messages.alloc (.request (some q))).2 } with hw₁
  have announced : go (announce s r q) w = go (onStart s (.span r) (some w.messages.next)) w₁ := rfl
  have made (recorded : Bool) (o : Origin) : w.DrawsIf recorded o w₁ :=
    .of_same rfl rfl rfl rfl
  rw [announced, CaptureSettings.ofRequest]
  cases records : s.recordsRequests with
  | true =>
    have reads₁ : w₁.Reads c (w₁.requests.get q).body := (reads records).of_same rfl rfl
    obtain ⟨w₂, given, spares⟩ := go_attributesOf_request (w := w₁) (Store.get_alloc_same _ _)
      reads₁ s.limit_pos
    have untold := (untold_attributesOf w.messages.next true s.limit requestKeys).of_go given
    obtain ⟨w₃, recorded, told, after⟩ := go_onStart_of_attributes (.span r) records given
    obtain ⟨w₄, put, live₄⟩ := go_putAttributes_of_live (w := w₂) (x := x)
      (by rw [untold.spans]; exact live) ((w.requests.get q).recorded s.limit c)
    rw [put] at after
    refine ⟨w₃, recorded, by rw [after.spans]; exact live₄, (made _ _).trans ⟨?_, nofun⟩⟩
    exact spares.trans (told.untouched.spares _)
  | false =>
    refine ⟨w₁, ?_, live, made _ _⟩
    rw [onStart, if_neg (by rw [records]; exact Bool.false_ne_true)]
    rfl

/-- A wrapper at work starts a span for the request, under its name.  If the span records, it is
told what is recorded of the request. -/
theorem opened_of_lead (led : go (lead i q) w = (.ok l, w₀))
    (reads : i.settings.recordsRequests = true → w.Reads c (w.requests.get q).body) :
    w.DrawsIf i.settings.recordsRequests (w.requests.get q).body.origin w₀ ∧
      l.records = (i.settings.enabled.truthy && i.provider == .recording) ∧
      if i.settings.enabled.truthy then ∃ name,
        spanName (methodName (w.requests.get q)) ((w.requests.get q).url.getD "") = .ok name ∧
        l.span? = some w.spans.next ∧
        w₀.spans.get w.spans.next = .live ((w.requestSpan i.provider q name).putAll
          (if l.records then i.settings.ofRequest (w.requests.get q) c else []))
      else l.span? = none := by
  rcases lead_cases led with
    ⟨rfl, disabled, rfl⟩ | ⟨enabled, name, named, ⟨rfl, sampled, rfl⟩ | ⟨rfl, records, announced⟩⟩
  · rw [disabled]
    exact ⟨.of_same rfl rfl rfl rfl, rfl, rfl⟩
  · rw [enabled, sampled]
    exact ⟨.of_same rfl rfl rfl rfl, rfl, name, named, rfl, get_withSpan w _⟩
  · rw [enabled, records]
    set w₁ := (w.withSpan (w.requestSpan i.provider q name)).under w.spans.next
    obtain ⟨w₂, ran, live, draws⟩ := exists_announce_live (w := w₁) (q := q) (c := c)
      (get_withSpan w _) fun recorded => (reads recorded).of_same rfl rfl
    obtain rfl : w₂ = w₀ := (Prod.mk.inj (ran.symm.trans announced)).2
    have started : w.DrawsIf i.settings.recordsRequests (w.requests.get q).body.origin w₁ :=
      .of_same rfl rfl rfl rfl
    exact ⟨started.trans draws, rfl, name, named, rfl, live⟩

/-! ## After the call -/

/-- Buffering leaves a response that reads the same, from memory, and of which the same is
recorded. -/
theorem exists_makeResponseRepeatable_of_carries (records : s.recordsResponses = true)
    (message : w.messages.get m = .response (some p)) (carries : w.Carries p c) :
    ∃ w', go (makeResponseRepeatable s (some m)) w = (.ok (), w') ∧ w'.Carries p c ∧
      w'.contentOrigin p = .memory ∧
      (w'.responses.get p).recorded s.limit c = (w.responses.get p).recorded s.limit c ∧
      w.Spares (w.contentOrigin p) w' := by
  cases held : (w.responses.get p).content.isHeld with
  | true =>
    obtain ⟨w', buffered, spared⟩ := go_makeResponseRepeatable_of_held (s := s) message held
    have same := spared.responses
    refine ⟨w', buffered, ?_, by rw [contentOrigin, same, if_pos held], by rw [same],
      spared.toUntouched.spares _⟩
    rw [Carries, same]
    exact (carries.loaded held).imp_right .inl
  | false =>
    have streams := carries.streams held
    obtain ⟨w', buffered, loaded, -, -, spares⟩ :=
      exists_makeResponseRepeatable_loaded records message streams
    refine ⟨w', buffered, .inl (by rw [loaded]; rfl), by rw [contentOrigin, loaded]; rfl, ?_, ?_⟩
    · rw [loaded, Response.recorded_loaded s.limit_pos streams.unread]
    · rw [contentOrigin, held]
      exact spares

/-- Buffering and recording a response puts what is recorded of it. -/
theorem exists_record_live (live : w.spans.get r = .live x)
    (message : w.messages.get m = .response (some p))
    (carries : s.recordsResponses = true → w.Carries p c) :
    ∃ w₁ w₂, go (makeResponseRepeatable s (some m)) w = (.ok (), w₁) ∧
      go (onEnd s (.span r) (some m)) w₁ = (.ok (), w₂) ∧
      w₂.spans.get r = .live (x.putAll (s.ofResponse (w.responses.get p) c)) ∧
      w.DrawsIf s.recordsResponses (w.contentOrigin p) w₂ := by
  rw [CaptureSettings.ofResponse]
  cases records : s.recordsResponses with
  | true =>
    obtain ⟨w₁, buffered, carries₁, memory, same, spares⟩ :=
      exists_makeResponseRepeatable_of_carries records message (carries records)
    have untold := (keeps_makeResponseRepeatable (R := Untold) s (some m)).of_go buffered
    have faces := (keeps_makeResponseRepeatable (R := SameFaces) s (some m)).of_go buffered
    obtain ⟨w₂, v, recorded, before, after, later⟩ :=
      exists_onEnd_state (.span r) records (faces.message m _ message) carries₁
    have live₁ : v.spans.get r = .live x := by
      rw [← live, ← untold.spans]
      exact Sum.inr.inj before
    obtain ⟨v', put, live₂⟩ := go_putAttributes_of_live live₁
      ((w₁.responses.get p).recorded s.limit c)
    rw [put] at after
    refine ⟨w₁, w₂, buffered, recorded, ?_, spares.trans ?_, nofun⟩
    · rw [if_pos rfl, ← same, ← live₂]
      exact Sum.inr.inj after
    · -- once buffered the content is in memory, and recording it draws on nothing
      rw [memory] at later
      exact later.of_memory _
  | false =>
    refine ⟨w, w, ?_, ?_, live, .of_same rfl rfl rfl rfl⟩
    · rw [makeResponseRepeatable, if_neg (by rw [records]; exact Bool.false_ne_true)]
      rfl
    · rw [onEnd, if_neg (by rw [records]; exact Bool.false_ne_true)]
      rfl

/-- A wrapper hands the response on, and before that it closes the span, if there is one. -/
theorem exists_settle_live (lively : ∀ r, l.span? = some r → ∃ x, w.spans.get r = .live x)
    (carries : s.recordsResponses = true → w.Carries p c) :
    ∃ w', go (settle s (.ok (some p)) l) w = (.ok (some p), w') ∧
      w.DrawsIf s.recordsResponses (w.contentOrigin p) w' ∧
      ∀ r x, l.span? = some r → w.spans.get r = .live x → w'.spans.get r = .live
        (x.close l.records (s.ofResponse (w.responses.get p) c) (w.responses.get p).status) := by
  cases l with
  | plain => exact ⟨w, rfl, .of_same rfl rfl rfl rfl, nofun⟩
  | sampledOut r =>
    obtain ⟨x, live⟩ := lively r rfl
    obtain ⟨w', finished, live'⟩ := go_finishSpan_of_live live
    refine ⟨w', ?_, ((keeps_finishSpan (R := Told) r).of_go finished).drawsIf _ _, ?_⟩
    · rw [settle, go_ensuring, go_lift, finished]
    · rintro _ y ⟨⟩ found
      obtain rfl := Span.live.inj (live.symm.trans found)
      exact live'
  | recording r present =>
    obtain ⟨x, live⟩ := lively r rfl
    set w₀ := w.returned present (some p) with hw₀
    have message : w₀.messages.get w.messages.next = .response (some p) := get_returned w present _
    have returned : w.DrawsIf s.recordsResponses (w.contentOrigin p) w₀ :=
      .of_same rfl rfl rfl rfl
    obtain ⟨w₁, w₂, buffered, recorded, live₂, draws⟩ := exists_record_live (w := w₀) live message
      fun records => (carries records).of_same rfl rfl
    have faces : w₀.SameFaces w₂ :=
      trans_of SameFaces ((keeps_makeResponseRepeatable s _).of_go buffered)
        ((keeps_onEnd s (.span r) _).of_go recorded)
    have read : w₂.statusResult (w₂.messages.get w.messages.next) =
        .ok (w.responses.get p).status := by
      rw [faces.message _ _ message, statusResult, faces.status]
      rfl
    obtain ⟨w₃, closed, told, live₃⟩ := go_closeSpan_of_live live₂ read
    refine ⟨w₃, ?_, returned.trans (draws.trans (told.drawsIf _ _)), ?_⟩
    · rw [go_settle_recording, go_handleResponse buffered recorded closed]
      exact go_within_pure _ _
    · rintro _ y ⟨⟩ found
      obtain rfl := Span.live.inj (live.symm.trans found)
      exact live₃

end Act

/-! ## Two exchanges -/

open Act

/-- A request that is sent under an instrument, and that the wrapped function answers. -/
structure Exchange (i : Instrument) (σ κ : Type) where
  /-- The wrapped function. -/
  send : Sending σ κ
  session : σ
  arguments : κ
  request : Ref Request
  response : Ref Response
  lead : Lead
  /-- The world that the wrapper is called in. -/
  before : World
  /-- The world that the wrapped function is called in. -/
  during : World
  /-- The world that the wrapped function leaves. -/
  after : World
  led : go (Act.lead i request) before = (.ok lead, during)
  sent : go (send session request arguments) during = (.ok (some response), after)

namespace Exchange

variable {i : Instrument} {σ κ σ' κ' : Type}

/-- The request, as the wrapper is given it. -/
def asked (x : Exchange i σ κ) : Request := x.before.requests.get x.request

/-- The response, as the wrapper is given it. -/
def answer (x : Exchange i σ κ) : Response := x.after.responses.get x.response

/-- Sending by the wrapper. -/
def run (x : Exchange i σ κ) : Act (Option (Ref Response)) :=
  tracedSend i x.send x.session x.request x.arguments

/-- The two exchanges agree in what a span may be told. -/
structure Agrees (x : Exchange i σ κ) (y : Exchange i σ' κ') : Prop where
  method : y.asked.method = x.asked.method
  url : y.asked.url = x.asked.url
  headers : y.asked.headers = x.asked.headers
  status : y.answer.status = x.answer.status
  answerHeaders : y.answer.headers = x.answer.headers
  /-- Bodies that are recorded are of the same kind, and up to the limit they are the same. -/
  bodies : i.settings.recordsRequests = true → y.asked.body.kind = x.asked.body.kind ∧
    ∃ c d, x.before.Reads c x.asked.body ∧ y.before.Reads d y.asked.body ∧
      SameFront i.settings.limit c d
  /-- Contents that are recorded are both loaded or both on the wire, and up to the limit they are
  the same. -/
  contents : i.settings.recordsResponses = true →
    y.answer.content.isHeld = x.answer.content.isHeld ∧
    ∃ c d, x.after.Carries x.response c ∧ y.after.Carries y.response d ∧
      SameFront i.settings.limit c d
  /-- The wrapped functions leave spans alike that were alike. -/
  meanwhile : x.during.SpansAlike x.lead y.during y.lead → x.after.SpansAlike x.lead y.after y.lead

/-- Nothing of a body was read, unless the body is recorded. -/
structure Draws (x : Exchange i σ κ) (w : World) : Prop where
  body : x.before.DrawsIf i.settings.recordsRequests x.asked.body.origin x.during
  content : x.after.DrawsIf i.settings.recordsResponses (x.after.contentOrigin x.response) w

variable {x : Exchange i σ κ} {y : Exchange i σ' κ'}

/-- What is recorded of the two requests is the same. -/
theorem Agrees.bodies_same (h : x.Agrees y) : ∃ c d,
    (i.settings.recordsRequests = true → x.before.Reads c x.asked.body) ∧
    (i.settings.recordsRequests = true → y.before.Reads d y.asked.body) ∧
    i.settings.ofRequest y.asked d = i.settings.ofRequest x.asked c := by
  unfold CaptureSettings.ofRequest
  by_cases records : i.settings.recordsRequests = true
  · obtain ⟨kind, c, d, reads, reads', same⟩ := h.bodies records
    refine ⟨c, d, fun _ => reads, fun _ => reads', ?_⟩
    rw [Request.recorded_congr h.headers kind reads reads' same]
  · -- the bodies may be anything here, and need not even read without a fault
    refine ⟨[], [], fun on => absurd on records, fun on => absurd on records, ?_⟩
    rw [if_neg records, if_neg records]

/-- What is recorded of the two responses is the same. -/
theorem Agrees.contents_same (h : x.Agrees y) : ∃ c d,
    (i.settings.recordsResponses = true → x.after.Carries x.response c) ∧
    (i.settings.recordsResponses = true → y.after.Carries y.response d) ∧
    i.settings.ofResponse y.answer d = i.settings.ofResponse x.answer c := by
  unfold CaptureSettings.ofResponse
  by_cases records : i.settings.recordsResponses = true
  · obtain ⟨held, c, d, carries, carries', same⟩ := h.contents records
    refine ⟨c, d, fun _ => carries, fun _ => carries', ?_⟩
    have recorded : y.answer.recorded i.settings.limit d = x.answer.recorded i.settings.limit c :=
      Response.recorded_congr h.answerHeaders held carries carries' same
    rw [recorded]
  · refine ⟨[], [], fun on => absurd on records, fun on => absurd on records, ?_⟩
    rw [if_neg records, if_neg records]

/-- When the wrapped functions are called, the spans are alike. -/
theorem Agrees.spansAlike_during (h : x.Agrees y) :
    x.during.SpansAlike x.lead y.during y.lead ∧ y.lead.records = x.lead.records ∧
      x.before.DrawsIf i.settings.recordsRequests x.asked.body.origin x.during ∧
      y.before.DrawsIf i.settings.recordsRequests y.asked.body.origin y.during := by
  obtain ⟨c, d, reads, reads', same⟩ := h.bodies_same
  obtain ⟨draws, records, opened⟩ := opened_of_lead x.led reads
  obtain ⟨draws', records', opened'⟩ := opened_of_lead y.led reads'
  refine ⟨?_, records'.trans records.symm, draws, draws'⟩
  by_cases enabled : i.settings.enabled.truthy = true
  · rw [if_pos enabled] at opened opened'
    obtain ⟨name, named, span, live⟩ := opened
    obtain ⟨name', named', span', live'⟩ := opened'
    obtain rfl : name = name' := by
      have method : methodName y.asked = methodName x.asked := by
        rw [methodName, methodName, h.method]
      have url : y.asked.url.getD "" = x.asked.url.getD "" := by rw [h.url]
      change spanName (methodName y.asked) (y.asked.url.getD "") = _ at named'
      rw [method, url] at named'
      exact Except.ok.inj (named.symm.trans named')
    refine .inr ⟨_, _, _, _, span, span', live, live', ?_⟩
    change LiveSpan.Like _ (LiveSpan.putAll _ (if _ then i.settings.ofRequest y.asked d else []))
    rw [same, records'.trans records.symm]
    exact (World.like_requestSpan h.method h.url i.provider name).putAll _
  · rw [if_neg enabled] at opened opened'
    exact .inl ⟨opened, opened'⟩

/-- The wrapper hands both responses on, the two spans carry the same, and of a body that is not
recorded nothing was read. -/
theorem spansAlike_of_agrees (x : Exchange i σ κ) (y : Exchange i σ' κ') (h : x.Agrees y) :
    ∃ u v, go x.run x.before = (.ok (some x.response), u) ∧
      go y.run y.before = (.ok (some y.response), v) ∧
      u.SpansAlike x.lead v y.lead ∧ x.Draws u ∧ y.Draws v := by
  obtain ⟨alike, records, draws, draws'⟩ := h.spansAlike_during
  obtain ⟨c, d, carries, carries', same⟩ := h.contents_same
  have after := h.meanwhile alike
  obtain ⟨u, settled, drawsContent, closes⟩ := exists_settle_live after.lively.1 carries
  obtain ⟨v, settled', drawsContent', closes'⟩ := exists_settle_live after.lively.2 carries'
  refine ⟨u, v, ?_, ?_, ?_, ⟨draws, drawsContent⟩, ⟨draws', drawsContent'⟩⟩
  · rw [run, go_tracedSend_of_lead x.led, x.sent]
    exact settled
  · rw [run, go_tracedSend_of_lead y.led, y.sent]
    exact settled'
  · rcases after with spanless | ⟨r, r', a, b, span, span', live, live', like⟩
    · exact .inl spanless
    · refine .inr ⟨r, r', _, _, span, span', closes r a span live, closes' r' b span' live', ?_⟩
      change LiveSpan.Like (a.close _ (i.settings.ofResponse x.answer c) x.answer.status)
        (b.close _ (i.settings.ofResponse y.answer d) y.answer.status)
      rw [same, records, h.status]
      exact like.close _ _ _

/-- An instrument that records two bytes of a response and nothing of a request. -/
def twoBytes : Instrument := ⟨⟨.bool false, .bool true, 2, by decide⟩, .recording⟩

/-- A request with a body, and a response with three bytes on the wire, given so many at a time. -/
def offering (body : Body) (last : UInt8) (n : Nat) : World :=
  { World.empty with
    sources := (Store.empty.alloc (.ofStandIn ⟨"raw", .data [104, 105, last] (some n) none, false,
      none, true, []⟩)).2
    requests := (Store.empty.alloc ⟨none, some "mock://h/p", some ⟨[]⟩, body⟩).2
    responses := (Store.empty.alloc ⟨.int 404, some ⟨[("Content-Encoding", .text "gzip")]⟩, .unread,
      false, some ⟨0⟩⟩).2 }

/-- The world in which the wrapped function is called. -/
def calling (w : World) : World :=
  { (w.withSpan (w.requestSpan .recording ⟨0⟩ "GET /p")).under w.spans.next with
    messages := (w.messages.alloc (.request (some ⟨0⟩))).2 }

/-- The request is answered by the response. -/
def answered (body : Body) (last : UInt8) (n : Nat) : Exchange twoBytes Unit Unit where
  send := answering
  session := ()
  arguments := ()
  request := ⟨0⟩
  response := ⟨0⟩
  lead := .recording ⟨0⟩ ⟨none, none⟩
  before := offering body last n
  during := calling (offering body last n)
  after := calling (offering body last n)
  led := by
    have named : spanName (methodName ((offering body last n).requests.get ⟨0⟩))
        (((offering body last n).requests.get ⟨0⟩).url.getD "") = .ok "GET /p" := by
      show spanName (Text.capitals "GET") "mock://h/p" = .ok "GET /p"
      decide +kernel
    exact go_lead_of_announce rfl rfl named rfl
  sent := rfl

/-- The two responses differ in the third byte and in how the wire gives them, and only one of the
requests has a body. -/
theorem spansAlike_of_agrees_answered :
    ∃ u v, go (answered (.bytes [1]) 33 1).run (offering (.bytes [1]) 33 1) =
        (.ok (some ⟨0⟩), u) ∧
      go (answered .absent 63 2).run (offering .absent 63 2) = (.ok (some ⟨0⟩), v) ∧
      ∃ a b, u.spans.get ⟨0⟩ = .live a ∧ v.spans.get ⟨0⟩ = .live b ∧ a.Like b := by
  have delivers (last : UInt8) (n : Nat) (some_bytes : n ≠ 0) :
      (Tower.reader (Source.ofStandIn ⟨"raw", .data [104, 105, last] (some n) none, false, none,
        true, []⟩).floors).Delivers streamChunkSize (Source.ofStandIn ⟨"raw",
        .data [104, 105, last] (some n) none, false, none, true, []⟩).state [104, 105, last] :=
    (StandIn.delivers (d := ⟨"raw", .data [104, 105, last] (some n) none, false, none, true, []⟩)
      rfl rfl (by simpa using some_bytes) streamChunkSize).embed Ground.embeds_standIn
  have streams (body : Body) (last : UInt8) (n : Nat) (some_bytes : n ≠ 0) :
      (answered body last n).after.Streams ⟨0⟩ [104, 105, last] :=
    ⟨rfl, rfl, ⟨_, rfl⟩, delivers last n some_bytes⟩
  have agrees : (answered (.bytes [1]) 33 1).Agrees (answered .absent 63 2) :=
    { method := rfl
      url := rfl
      headers := rfl
      status := rfl
      answerHeaders := rfl
      bodies := nofun
      contents := fun _ => ⟨rfl, [104, 105, 33], [104, 105, 63],
        .inr (.inr (streams _ _ _ (by decide))), .inr (.inr (streams _ _ _ (by decide))), rfl, rfl⟩
      meanwhile := id }
  obtain ⟨u, v, ran, ran', alike, -⟩ := spansAlike_of_agrees _ _ agrees
  refine ⟨u, v, ran, ran', ?_⟩
  rcases alike with ⟨spanless, -⟩ | ⟨r, r', a, b, ⟨⟩, ⟨⟩, live, live', like⟩
  · exact nomatch spanless
  · exact ⟨a, b, live, live', like⟩

end Exchange
end HttpTap
