import HttpTap.Proofs.Capture.RequestBody
import HttpTap.Proofs.Capture.ResponseBody
import HttpTap.Proofs.Capture.Swapping

/-!
# What is recorded of a body

A body is read to its end when it has to be buffered, it has a length of its own, and its bytes are
decoded.  Yet what is recorded is settled by little: the limit, the length that is declared, the
length that was observed, how many bytes there are, and those under the limit.  `attributesFrom`
gives the attributes from these, and of the bytes it uses no others (`attributesFrom_congr`).

`Request.recorded` and `Response.recorded` are what this comes to for the body of a request and for
the content of a response.  Recording gives these attributes, whatever else is in the world
(`go_attributesOf_request`, `go_attributesOf_response`), and has told nobody anything until then
(`World.Untold`).
-/

namespace HttpTap

/-- The attributes of a body that holds `c`, if `length` is what reading its length gives. -/
def attributesFrom (keys : BodyKeys) (limit : Int) (length : Except Fault Int)
    (observed : Option Nat) (c : Bytes) : List (String × Value) :=
  match length with
  | .error _ => []
  | .ok d =>
    if d = 0 then []
    else match capturedBody limit (.int d) observed
        ⟨c.take limit.toNat, decide (limit.toNat < c.length)⟩ with
      | .ok body => bodyAttributes keys body
      | .error _ => []

/-- There are as many bytes, and up to the limit they are the same. -/
structure SameFront (limit : Int) (c d : Bytes) : Prop where
  length : d.length = c.length
  front : d.take limit.toNat = c.take limit.toNat

/-- Is the body read once?  Then its length is observed while it is buffered. -/
def observedLength (held : Bool) (c : Bytes) : Option Nat := if held then none else some c.length

/-- The attributes of a request whose body reads as `c`. -/
def Request.recorded (q : Request) (limit : Int) (c : Bytes) : List (String × Value) :=
  match q.headers, q.body with
  | none, _ | _, .absent => []
  | some h, body =>
    attributesFrom requestKeys limit (requestLength (some h) body) (observedLength body.isHeld c) c

/-- The kinds of bodies between which it makes a difference how a request is recorded. -/
inductive BodyKind where
  | absent
  | bytes
  | text
  /-- Read piece by piece, and only once. -/
  | streamed

/-- The kind of a body. -/
def Body.kind : Body → BodyKind
  | .absent => .absent
  | .bytes _ | .buffer _ => .bytes
  | .text _ => .text
  | .file _ | .iterator _ | .value _ => .streamed

/-- The attributes of a response whose content reads as `c`. -/
def Response.recorded (p : Response) (limit : Int) (c : Bytes) : List (String × Value) :=
  match p.headers with
  | none => []
  | some h =>
    attributesFrom responseKeys limit (responseLength p (h.lookup encodingHeader))
      (observedLength p.content.isHeld c) c

namespace World

/-- The body of a request reads as `c`, from beginning to end and without a fault. -/
def Reads (w : World) (c : Bytes) : Body → Prop
  | .absent => c = []
  | .bytes bs | .buffer bs => c = bs
  | .text s => c = Text.Utf8.encode s
  | .file source =>
    (Feed.pieces (w.onItsOwn source).reader).Supplies (piecesOf (w.onItsOwn source)) c
  | .iterator items => Feed.items.Supplies (w.iterators.get items) c
  | .value v => ∃ is, iterate v = .ok is ∧ Feed.items.Supplies is c

/-- The content of a response reads as `c`: it is loaded, or the raw stream delivers it. -/
def Carries (w : World) (p : Ref Response) (c : Bytes) : Prop :=
  (w.responses.get p).content = .held (.bytes c) ∨
    (w.responses.get p).content = .held .null ∧ c = [] ∨ w.Streams p c

theorem Reads.of_same {w w' : World} {c : Bytes} {body : Body} (h : w.Reads c body)
    (sources : w'.sources = w.sources) (iterators : w'.iterators = w.iterators) :
    w'.Reads c body := by
  cases body with
  | file source =>
    show (Feed.pieces (Tower.reader (w'.sources.get source).floors)).Supplies
      ⟨(w'.sources.get source).state, streamChunkSize, .live⟩ c
    rw [sources]
    exact h
  | iterator items =>
    show Feed.items.Supplies (w'.iterators.get items) c
    rw [iterators]
    exact h
  | _ => exact h

theorem Streams.of_same {w w' : World} {p : Ref Response} {c : Bytes} (h : w.Streams p c)
    (sources : w'.sources = w.sources) (responses : w'.responses = w.responses) :
    w'.Streams p c := by
  obtain ⟨unread, fresh, headers, delivers⟩ := h
  rw [← responses] at unread fresh headers delivers
  exact ⟨unread, fresh, headers, of_rawStream_same (w := w)
    (P := fun reader state => reader.Delivers streamChunkSize state c) delivers sources⟩

theorem Carries.of_same {w w' : World} {p : Ref Response} {c : Bytes} (h : w.Carries p c)
    (sources : w'.sources = w.sources) (responses : w'.responses = w.responses) :
    w'.Carries p c := by
  unfold Carries
  rw [responses]
  exact h.imp_right fun h => h.imp_right fun h => h.of_same sources responses

theorem Carries.loaded {w : World} {p : Ref Response} {c : Bytes} (h : w.Carries p c)
    (held : (w.responses.get p).content.isHeld = true) :
    (w.responses.get p).content = .held (.bytes c) ∨
      (w.responses.get p).content = .held .null ∧ c = [] := by
  rcases h with content | content | streams
  · exact .inl content
  · exact .inr content
  · rw [streams.unread] at held
    exact nomatch held

theorem Carries.streams {w : World} {p : Ref Response} {c : Bytes} (h : w.Carries p c)
    (unheld : (w.responses.get p).content.isHeld = false) : w.Streams p c := by
  rcases h with content | ⟨content, -⟩ | streams
  · rw [content] at unheld
    exact nomatch unheld
  · rw [content] at unheld
    exact nomatch unheld
  · exact streams

/-- Neither a sink nor a span was told anything. -/
structure Untold (w w' : World) : Prop where
  sinks : w'.sinks = w.sinks
  spans : w'.spans = w.spans

instance : IsPreorder World Untold where
  refl _ := ⟨rfl, rfl⟩
  trans _ _ _ h h' := ⟨h'.sinks.trans h.sinks, h'.spans.trans h.spans⟩

instance : SwappingFrame Untold where
  toReadingFrame := .of_consulted fun _ _ consulted => ⟨consulted.sinks, consulted.spans⟩
  setHeld _ _ _ _ _ := ⟨rfl, rfl⟩
  setRequest _ _ _ := ⟨rfl, rfl⟩
  setContent _ _ _ := ⟨rfl, rfl⟩

/-- No response was given another status, other headers or another raw stream, and the messages that
are responses still are. -/
structure SameFaces (w w' : World) : Prop where
  message : ∀ m p, w.messages.get m = .response p → w'.messages.get m = .response p
  status : ∀ p, (w'.responses.get p).status = (w.responses.get p).status
  headers : ∀ p, (w'.responses.get p).headers = (w.responses.get p).headers
  raw : ∀ p, (w'.responses.get p).raw = (w.responses.get p).raw

instance : IsPreorder World SameFaces where
  refl _ := ⟨fun _ _ => id, fun _ => rfl, fun _ => rfl, fun _ => rfl⟩
  trans _ _ _ h h' := ⟨fun m p => h'.message m p ∘ h.message m p,
    fun p => (h'.status p).trans (h.status p), fun p => (h'.headers p).trans (h.headers p),
    fun p => (h'.raw p).trans (h.raw p)⟩

instance : SwappingFrame SameFaces where
  toReadingFrame := .of_consulted fun w w' consulted => by
    refine ⟨fun m p is => by rw [consulted.messages]; exact is, fun p => ?_, fun p => ?_,
      fun p => ?_⟩
    all_goals rw [(consulted.responses p).same]
  setHeld w m e status held := by
    refine ⟨fun m' p is => ?_, fun _ => rfl, fun _ => rfl, fun _ => rfl⟩
    have apart : m' ≠ m := by
      rintro rfl
      rw [is] at held
      simp at held
    exact (Store.get_set_other apart _).trans is
  setRequest _ _ _ := ⟨fun _ _ => id, fun _ => rfl, fun _ => rfl, fun _ => rfl⟩
  setContent w q content := by
    have kept : ∀ p, ((w.responses.set q { w.responses.get q with
        content := content, consumed := true }).get p).status = (w.responses.get p).status ∧
      ((w.responses.set q { w.responses.get q with
        content := content, consumed := true }).get p).headers = (w.responses.get p).headers ∧
      ((w.responses.set q { w.responses.get q with
        content := content, consumed := true }).get p).raw = (w.responses.get p).raw := by
      intro p
      by_cases same : p = q
      · subst same
        rw [Store.get_set_same]
        exact ⟨rfl, rfl, rfl⟩
      · rw [Store.get_set_other same]
        exact ⟨rfl, rfl, rfl⟩
    exact ⟨fun _ _ => id, fun p => (kept p).1, fun p => (kept p).2.1, fun p => (kept p).2.2⟩

instance : TellingFrame SameFaces where
  setProbe _ _ _ _ _ _ := ⟨fun _ _ => id, fun _ => rfl, fun _ => rfl, fun _ => rfl⟩
  setRunning _ _ _ _ _ _ := ⟨fun _ _ => id, fun _ => rfl, fun _ => rfl, fun _ => rfl⟩
  setSink _ _ _ := ⟨fun _ _ => id, fun _ => rfl, fun _ => rfl, fun _ => rfl⟩
  noted _ _ := ⟨fun _ _ => id, fun _ => rfl, fun _ => rfl, fun _ => rfl⟩

end World

/-! ## The bytes beyond the limit -/

/-- Of a body no more is recorded than its length and the bytes under the limit. -/
theorem attributesFrom_congr {limit : Int} {c d : Bytes} (same : SameFront limit c d)
    (keys : BodyKeys) (length : Except Fault Int) (observed : Option Nat) :
    attributesFrom keys limit length observed d = attributesFrom keys limit length observed c := by
  unfold attributesFrom
  rw [same.length, same.front]

theorem observedLength_congr {limit : Int} {c d : Bytes} (same : SameFront limit c d)
    (held : Bool) : observedLength held d = observedLength held c := by
  unfold observedLength
  rw [same.length]

/-! ## Requests of the same kind -/

section Kind

variable {w w' : World} {q q' : Request} {body body' : Body} {h : Headers} {c d : Bytes}
  {limit : Int}

/-- Only a body that is bytes has a length of its own. -/
theorem byteLength?_of_reads (reads : w.Reads c body) :
    body.byteLength? = match body.kind with
      | .bytes => some c.length
      | _ => none := by
  cases body with
  | bytes bs | buffer bs =>
    obtain rfl : c = bs := reads
    rfl
  | _ => rfl

theorem isHeld_eq_of_kind (same : body'.kind = body.kind) : body'.isHeld = body.isHeld := by
  have held (b : Body) : b.isHeld = match b.kind with
      | .bytes | .text => true
      | _ => false := by
    cases b <;> rfl
  rw [held, held, same]

theorem absent_iff_kind : body = .absent ↔ body.kind = .absent := by
  cases body <;> simp [Body.kind]

theorem Request.recorded_of_absent (absent : q.body = .absent) (limit : Int) (c : Bytes) :
    q.recorded limit c = [] := by
  rw [recorded, absent]
  cases q.headers <;> rfl

theorem Request.recorded_of_filled (headers : q.headers = some h) (filled : q.body ≠ .absent)
    (limit : Int) (c : Bytes) :
    q.recorded limit c = attributesFrom requestKeys limit (requestLength (some h) q.body)
      (observedLength q.body.isHeld c) c := by
  rw [recorded, headers]
  cases body : q.body with
  | absent => exact absurd body filled
  | _ => rfl

/-- What is recorded of a request depends on the headers, on the kind of its body, and on the bytes
under the limit and how many there are. -/
theorem Request.recorded_congr (headers : q'.headers = q.headers)
    (kind : q'.body.kind = q.body.kind) (reads : w.Reads c q.body) (reads' : w'.Reads d q'.body)
    (same : SameFront limit c d) :
    q'.recorded limit d = q.recorded limit c := by
  by_cases absent : q.body = .absent
  · have absent' : q'.body = .absent := absent_iff_kind.2 (kind.trans (absent_iff_kind.1 absent))
    rw [recorded_of_absent absent, recorded_of_absent absent']
  · have filled : q'.body ≠ .absent := fun absent' =>
      absent (absent_iff_kind.2 (kind.symm.trans (absent_iff_kind.1 absent')))
    cases known : q.headers with
    | none =>
      rw [recorded, recorded, headers, known]
    | some h =>
      have length : requestLength (some h) q'.body = requestLength (some h) q.body := by
        rw [requestLength, requestLength, byteLength?_of_reads reads, byteLength?_of_reads reads',
          kind, same.length]
      rw [recorded_of_filled known absent, recorded_of_filled (headers.trans known) filled, length,
        isHeld_eq_of_kind kind, observedLength_congr same, attributesFrom_congr same]

end Kind

/-! ## Lengths of responses -/

section Length

variable {p : Response} {c d : Bytes} {limit : Int}

/-- The length of content on the wire. -/
theorem responseLength_unread (unread : p.content = .unread) (encoding : Value) :
    responseLength p encoding = (do
      if ← isPacked encoding then return unknownLength else declaredLength p.headers) := by
  rw [responseLength, unread]

/-- The length of loaded content. -/
theorem responseLength_held
    (held : p.content = .held (.bytes c) ∨ p.content = .held .null ∧ c = []) (encoding : Value) :
    responseLength p encoding =
      if c.length = 0 then .ok 0
      else (do
        if ← isPacked encoding then return (c.length : Int)
        let declared ← declaredLength p.headers
        if declared = unknownLength then return (c.length : Int) else return declared) := by
  rcases held with content | ⟨content, rfl⟩
  · rw [responseLength, content]
    cases c <;> rfl
  · rw [responseLength, content]
    rfl

/-- What is recorded of a response depends on the headers, on whether the content is loaded, and on
the bytes under the limit and how many there are. -/
theorem Response.recorded_congr {w w' : World} {p p' : Ref Response}
    (headers : (w'.responses.get p').headers = (w.responses.get p).headers)
    (held : (w'.responses.get p').content.isHeld = (w.responses.get p).content.isHeld)
    (carries : w.Carries p c) (carries' : w'.Carries p' d) (same : SameFront limit c d) :
    (w'.responses.get p').recorded limit d = (w.responses.get p).recorded limit c := by
  have length (encoding : Value) : responseLength (w'.responses.get p') encoding =
      responseLength (w.responses.get p) encoding := by
    cases loaded : (w.responses.get p).content.isHeld with
    | true =>
      rw [responseLength_held (carries.loaded loaded),
        responseLength_held (carries'.loaded (held.trans loaded)), headers, same.length]
    | false =>
      rw [responseLength_unread (carries.streams loaded).unread,
        responseLength_unread (carries'.streams (held.trans loaded)).unread, headers]
  unfold recorded
  rw [headers]
  cases (w.responses.get p).headers with
  | none => rfl
  | some h =>
    dsimp only
    rw [length, held, observedLength_congr same, attributesFrom_congr same]

end Length

namespace Act

open World

variable {w w₁ w₂ : World} {m : Ref Message} {e : Ref Entity} {x : Entity} {limit chunk : Int}
  {keys : BodyKeys} {c : Bytes} {rep : Bool}

/-! ## One capture -/

theorem go_readBody_of_made {p : Prepared} (h : w.Offers readChunkSize p.entity true c)
    (pos : 0 < limit) {body : Option CapturedBody}
    (made : capturedBody limit p.declared p.observed
      ⟨c.take limit.toNat, decide (limit.toNat < c.length)⟩ = .ok body) :
    ∃ w', go (readBody limit p) w = (.ok body, w') := by
  obtain ⟨r, w₁, opened, serves⟩ := h.opens w .refl
  exact ⟨_, go_readBody opened serves pos made⟩

/-- Capturing an entity that offers `c`, and what there is to put in its place. -/
theorem go_capture_attributes (keys : BodyKeys) {o : Origin} (hx : w.entities.get e = x)
    (origin : x.origin? w = some o) {length : Except Fault Int}
    (declared : w.lengthOf x = length.map .int) (contained : Contained (fun _ => True) length)
    (offers : w.Offers (max chunk readChunkSize) e (w.isRepeatable x) c) (pos : 0 < limit)
    (step : 0 < chunk) :
    ∃ captured w', go (capture limit chunk (some e)) w = (.ok captured, w') ∧
      bodyAttributes keys captured.body =
        attributesFrom keys limit length (observedLength (w.isRepeatable x) c) c ∧
      w.Spares o w' ∧
      (captured.replaced = true → w.isRepeatable x = false ∧
        ∃ e', captured.entity = some e' ∧ ∃ type encoding,
          w'.entities.get e' = .stored false c type encoding) := by
  have own := not_scripted_of_origin origin
  have read := go_contentLength hx own
  rw [declared] at read
  cases length with
  | error f =>
    have failed : go (prepareEntity e chunk) w = (.error f, w) := by
      rw [prepareEntity, go_bind_of_error read]
    have said := untouched_say
      (.contained captureChannel "Failed to prepare entity for capture" f) w
    exact ⟨_, _, go_capture_of_error failed contained, rfl, said.spares o,
      fun off => absurd off Bool.false_ne_true⟩
  | ok d =>
    by_cases zero : d = 0
    · subst zero
      exact ⟨_, w, go_capture_of_zero read rfl, rfl, (Untouched.refl w).spares o,
        fun off => absurd off Bool.false_ne_true⟩
    · have filled : (Value.int d).equalsInt 0 = false := filled_of_integer? rfl zero
      have observed : observedLength (w.isRepeatable x) c =
          if w.isRepeatable x then none else some c.length := rfl
      obtain ⟨body, made, -⟩ := exists_capturedBody (show (Value.int d).integer? = some d from rfl)
        pos (w.isRepeatable x) observed
      have shown : bodyAttributes keys body =
          attributesFrom keys limit (.ok d) (observedLength (w.isRepeatable x) c) c := by
        rw [attributesFrom, if_neg zero, made]
      cases rep : w.isRepeatable x with
      | true =>
        rw [rep] at offers made shown
        have prepared : go (prepareEntity e chunk) w =
            (.ok (some ⟨e, .int d, none, false⟩), w) := by
          rw [prepareEntity, go_bind_of_ok read, if_neg (by rw [filled]; exact Bool.false_ne_true),
            go_bind_of_ok (go_repeatable hx own), rep]
          rfl
        obtain ⟨w', ran⟩ := go_readBody_of_made (p := ⟨e, .int d, none, false⟩)
          (offers.mono (Int.le_max_right _ _)) pos made
        have spares := spares_readBody (p := ⟨e, .int d, none, false⟩) hx origin limit
        rw [ran] at spares
        exact ⟨_, w', go_capture_of_prepared prepared ran, shown, spares,
          fun off => absurd off Bool.false_ne_true⟩
      | false =>
        rw [rep] at offers made shown
        obtain ⟨e', w₂, prepared, copy⟩ := go_prepareEntity_of_once read filled
          (offers.mono (Int.le_max_left _ _)) step
        have spares : w.Spares o w₂ := by
          have drawn := spares_prepareEntity hx origin chunk
          rw [prepared] at drawn
          exact drawn
        obtain ⟨w', ran⟩ := go_readBody_of_made (p := ⟨e', .int d, some c.length, true⟩)
          copy.offers pos made
        have uses : Uses e' w₂ w' :=
          (uses_readBody limit ⟨e', .int d, some c.length, true⟩).of_go ran
        -- the copy is in memory, so reading it draws on nothing
        obtain ⟨type, encoding, held⟩ := copy.holds
        have later := spares_readBody (p := ⟨e', .int d, some c.length, true⟩) held rfl limit
        rw [ran] at later
        exact ⟨_, w', go_capture_of_prepared prepared ran, shown, spares.trans (later.of_memory o),
          fun _ => ⟨rfl, e', rfl, (copy.later uses).holds⟩⟩

/-! ## The attributes of a message -/

/-- Getting the attributes of a message is a capture and a swap. -/
theorem go_attributesOf_of_capture {e : Option (Ref Entity)} {captured : CaptureResult}
    {w₃ : World} (entity : go (orNothing (messageEntity m) none) w = (.ok e, w₁))
    (capture : go (capture limit bufferChunkSize e) w₁ = (.ok captured, w₂))
    (swapped : go (if captured.replaced then setMessageEntity m captured.entity else pure ()) w₂ =
      (.ok (), w₃)) :
    go (attributesOf m (recordEntity true limit keys)) w =
      (.ok (bodyAttributes keys captured.body), w₃) := by
  have hooked : go (recordEntity true limit keys e) w₁ =
      (.ok ⟨bodyAttributes keys captured.body, captured.entity, captured.replaced⟩, w₂) := by
    rw [recordEntity, if_pos rfl, go_bind_of_ok capture]
    rfl
  rw [attributesOf, go_bind_of_ok entity, go_bind_of_ok hooked]
  cases replaced : captured.replaced with
  | true =>
    rw [replaced, if_pos rfl] at swapped
    rw [if_pos rfl, go_bind_of_ok swapped]
    rfl
  | false =>
    rw [replaced, if_neg Bool.false_ne_true] at swapped
    obtain rfl : w₂ = w₃ := (Prod.mk.inj swapped).2
    rfl

/-- A message without an entity has no attributes. -/
theorem go_attributesOf_of_none
    (entity : go (orNothing (messageEntity m) none) w = (.ok none, w₁)) :
    go (attributesOf m (recordEntity true limit keys)) w = (.ok [], w₁) := by
  have capture : go (capture limit bufferChunkSize none) w₁ = (.ok ⟨none, none, false⟩, w₁) := rfl
  exact go_attributesOf_of_capture entity capture rfl

/-- The entity of a message is captured.  If it can be read only once, its copy is put in its
place. -/
theorem go_attributesOf_of_offers (keys : BodyKeys) {o : Origin} {length : Except Fault Int}
    (entity : go (messageEntity m) w = (.ok (some e), w₁)) (hx : w₁.entities.get e = x)
    (origin : x.origin? w₁ = some o) (declared : w₁.lengthOf x = length.map .int)
    (contained : Contained (fun _ => True) length)
    (offers : w₁.Offers Value.maxCount e (w₁.isRepeatable x) c) (pos : 0 < limit)
    (swap : ∀ w₂ e', w₁.Consulted w₂ → w₁.isRepeatable x = false →
      (∃ type encoding, w₂.entities.get e' = .stored false c type encoding) →
      ∃ w₃, go (setMessageEntity m (some e')) w₂ = (.ok (), w₃) ∧ w₂.Spares o w₃) :
    ∃ w', go (attributesOf m (recordEntity true limit keys)) w =
      (.ok (attributesFrom keys limit length (observedLength (w₁.isRepeatable x) c) c), w') ∧
      w₁.Spares o w' := by
  obtain ⟨captured, w₂, capture, shown, spares, copy⟩ := go_capture_attributes keys hx
    origin declared contained (offers.mono (by decide)) pos (show 0 < bufferChunkSize by decide)
  have consulted : w₁.Consulted w₂ := (keeps_capture limit bufferChunkSize (some e)).of_go capture
  rw [← shown]
  cases replaced : captured.replaced with
  | false =>
    exact ⟨w₂, go_attributesOf_of_capture (go_orNothing_of_ok entity) capture
      (by rw [replaced]; rfl), spares⟩
  | true =>
    obtain ⟨once, e', kept, stored⟩ := copy replaced
    obtain ⟨w₃, swapped, later⟩ := swap w₂ e' consulted once stored
    exact ⟨w₃, go_attributesOf_of_capture (go_orNothing_of_ok entity) capture
      (by rw [replaced, kept]; exact swapped), spares.trans later⟩

/-! ### Requests -/

section Request

variable {q : Ref Request} {body : Body} {type encoding : Value}

/-- What the entity of a body offers is what the body reads as. -/
theorem offers_reads (hx : w.entities.get e = .requestBody q body type encoding)
    (filled : body ≠ .absent) (reads : w.Reads c body) :
    w.Offers Value.maxCount e body.isHeld c := by
  have held : ∀ bs, openBody body = openSource (.ofBytes bs) → body.isHeld = w.isRepeatable
      (.requestBody q body type encoding) → w.Offers Value.maxCount e body.isHeld bs := by
    intro bs opened flag
    rw [flag]
    refine (offers_of_opens hx rfl ⟨_, _, ?_, serves_openSource w (Source.delivers_ofBytes bs)
      (Source.closesCleanly_ofBytes bs)⟩).mono (show Value.maxCount ≤ largestSize by decide)
    rw [go_openContent_requestBody hx, opened]
    rfl
  cases body with
  | absent => exact absurd rfl filled
  | bytes bs =>
    obtain rfl : c = bs := reads
    exact held c rfl rfl
  | buffer bs =>
    obtain rfl : c = bs := reads
    exact held c rfl rfl
  | text s =>
    obtain rfl : c = Text.Utf8.encode s := reads
    exact held _ rfl rfl
  | file source => exact offers_file hx reads
  | iterator items => exact offers_iterator hx reads
  | value v =>
    obtain ⟨is, gone, supplies⟩ := reads
    exact offers_value hx gone supplies

/-- Recording a request gives the attributes of its body, and draws on nothing else. -/
theorem go_attributesOf_request (message : w.messages.get m = .request (some q))
    (reads : w.Reads c (w.requests.get q).body) (pos : 0 < limit) :
    ∃ w', go (attributesOf m (recordEntity true limit requestKeys)) w =
        (.ok ((w.requests.get q).recorded limit c), w') ∧
      w.Spares (w.requests.get q).body.origin w' := by
  by_cases filled : (w.requests.get q).body = .absent
  · have entity := go_messageEntity_absent message filled
    refine ⟨w, (go_attributesOf_of_none (go_orNothing_of_ok entity)).trans ?_,
      (Untouched.refl w).spares _⟩
    rw [Request.recorded_of_absent filled]
  · cases headers : (w.requests.get q).headers with
    | none =>
      have failed := go_messageEntity_bare message headers filled
      refine ⟨w, (go_attributesOf_of_none (go_orNothing_of_member failed)).trans ?_,
        (Untouched.refl w).spares _⟩
      rw [Request.recorded, headers]
    | some h =>
      have entity := go_messageEntity_request message headers filled
      rw [Request.recorded_of_filled headers filled]
      generalize (w.requests.get q).body = b at reads filled entity
      set x : Entity := .requestBody q b (h.lookup typeHeader) (h.lookup encodingHeader)
      set w₁ : World := { w with entities := (w.entities.alloc x).2 } with hw₁
      have made : w.Spares b.origin w₁ := spares_of_same rfl rfl rfl
      have hx : w₁.entities.get w.entities.next = x := Store.get_alloc_same _ _
      have offers : w₁.Offers Value.maxCount w.entities.next (w₁.isRepeatable x) c :=
        offers_reads hx filled (reads.of_same rfl rfl)
      have length : w₁.lengthOf x = (requestLength (some h) b).map .int := by
        rw [← headers]
        rfl
      obtain ⟨w', given, spares⟩ := go_attributesOf_of_offers requestKeys entity hx rfl
        length (requestLength_contained _ _) offers pos fun w₂ e' consulted _ stored => by
          refine ⟨_, go_setMessageEntity_request (by rw [consulted.messages]; exact message)
            (by rw [consulted.requests]; exact headers) stored, ?_⟩
          exact spares_of_same rfl rfl rfl
      exact ⟨w', given, made.trans spares⟩

end Request

/-! ### Responses -/

section Response

variable {p : Ref Response} {type encoding : Value}

/-- What the entity of a response offers is what its content reads as. -/
theorem offers_carries (hx : w.entities.get e = .responseBody p type encoding)
    (carries : w.Carries p c) :
    w.Offers Value.maxCount e (w.responses.get p).content.isHeld c := by
  have held : go (openResponse p) w = go (openSource (.ofBytes c)) w →
      w.Offers Value.maxCount e (w.responses.get p).content.isHeld c := by
    intro opened
    refine (offers_of_opens hx rfl ⟨_, _, ?_, serves_openSource w (Source.delivers_ofBytes c)
      (Source.closesCleanly_ofBytes c)⟩).mono (show Value.maxCount ≤ largestSize by decide)
    rw [go_openContent_responseBody hx, opened]
    rfl
  rcases carries with content | ⟨content, rfl⟩ | streams
  · exact held (go_openResponse_of_held content)
  · refine held ?_
    rw [openResponse, go_bind, go_view]
    dsimp only
    rw [content]
    rfl
  · rw [streams.unread]
    exact offers_unread hx streams.unread streams.fresh
      (Feed.supplies_of_delivers streams.delivers (show 0 < streamChunkSize by decide))

/-- Recording a response gives the attributes of its content, and draws on nothing else. -/
theorem go_attributesOf_response (message : w.messages.get m = .response (some p))
    (carries : w.Carries p c) (pos : 0 < limit) :
    ∃ w', go (attributesOf m (recordEntity true limit responseKeys)) w =
        (.ok ((w.responses.get p).recorded limit c), w') ∧ w.Spares (w.contentOrigin p) w' := by
  cases headers : (w.responses.get p).headers with
  | none =>
    have failed := go_messageEntity_headless message headers
    refine ⟨w, (go_attributesOf_of_none (go_orNothing_of_member failed)).trans ?_,
      (Untouched.refl w).spares _⟩
    rw [Response.recorded, headers]
  | some h =>
    have entity := go_messageEntity_response message headers
    set x : Entity := .responseBody p (h.lookup typeHeader) (h.lookup encodingHeader)
    set w₁ : World := { w with entities := (w.entities.alloc x).2 } with hw₁
    have made : w.Spares (w.contentOrigin p) w₁ := spares_of_same rfl rfl rfl
    have hx : w₁.entities.get w.entities.next = x := Store.get_alloc_same _ _
    have offers : w₁.Offers Value.maxCount w.entities.next (w₁.isRepeatable x) c :=
      offers_carries hx (carries.of_same rfl rfl)
    obtain ⟨w', given, spares⟩ := go_attributesOf_of_offers responseKeys entity hx rfl
      rfl (responseLength_contained _ _) offers pos fun w₂ e' consulted unheld stored => by
        refine ⟨_, go_setMessageEntity_response (by rw [consulted.messages]; exact message) stored,
          ?_⟩
        have unloaded : (w₁.responses.get p).content.isHeld = false := unheld
        rw [contentOrigin, unloaded]
        exact spares_set_response w₂ p rfl
    refine ⟨w', given.trans ?_, made.trans spares⟩
    rw [Response.recorded, headers]
    rfl

end Response

/-! ## What the target is told -/

/-- Recording a message tells the target its attributes, as far as the target takes them. -/
theorem go_recordMessage_of_attributes {hook : Option (Ref Entity) → Act RecordResult}
    {attributes : List (String × Value)} (t : Target) (direction : String)
    (given : go (attributesOf m hook) w = (.ok attributes, w₁)) :
    ∃ w', go (recordMessage t m direction hook) w = (.ok (), w') ∧ w₁.Told w' ∧
      (go (putAttributes t attributes) w₁).2.Untold w' := by
  have contained := (safe_putAttributes t attributes w₁ trivial).2
  have told : w₁.Told (go (putAttributes t attributes) w₁).2 := keeps_putAttributes t attributes w₁
  have inner : go (attributesOf m hook >>= putAttributes t) w =
      go (putAttributes t attributes) w₁ := go_bind_of_ok given _
  rw [recordMessage_eq]
  generalize go (putAttributes t attributes) w₁ = outcome at contained told inner
  obtain ⟨f | _, w₂⟩ := outcome
  · refine ⟨_, go_attempt_of_error inner contained, told.trans ?_, rfl, rfl⟩
    exact told_say (.contained recorderChannel ("Failed to record " ++ direction ++ " body") f) w₂
  · exact ⟨w₂, by rw [go_attempt, inner], told, rfl, rfl⟩

section Recorder

variable {s : CaptureSettings} {attributes : List (String × Value)}

theorem go_onStart_of_attributes (t : Target) (records : s.recordsRequests = true)
    (given : go (attributesOf m (recordEntity true s.limit requestKeys)) w = (.ok attributes, w₁)) :
    ∃ w', go (onStart s t (some m)) w = (.ok (), w') ∧ w₁.Told w' ∧
      (go (putAttributes t attributes) w₁).2.Untold w' := by
  obtain ⟨w', recorded, told⟩ := go_recordMessage_of_attributes t "request" given
  refine ⟨w', ?_, told⟩
  rw [onStart, if_pos records]
  rw [← records] at recorded
  exact recorded

theorem go_onEnd_of_attributes (t : Target) (records : s.recordsResponses = true)
    (given : go (attributesOf m (recordEntity true s.limit responseKeys)) w =
      (.ok attributes, w₁)) :
    ∃ w', go (onEnd s t (some m)) w = (.ok (), w') ∧ w₁.Told w' ∧
      (go (putAttributes t attributes) w₁).2.Untold w' := by
  obtain ⟨w', recorded, told⟩ := go_recordMessage_of_attributes t "response" given
  refine ⟨w', ?_, told⟩
  rw [onEnd, if_pos records]
  rw [← records] at recorded
  exact recorded

/-- Until the attributes are there, nobody is told anything. -/
theorem untold_attributesOf (m : Ref Message) (enabled : Bool) (limit : Int) (keys : BodyKeys) :
    Keeps Untold (attributesOf m (recordEntity enabled limit keys)) :=
  keeps_attributesOf m fun e => keeps_recordEntity enabled limit keys e

end Recorder

end Act
end HttpTap
