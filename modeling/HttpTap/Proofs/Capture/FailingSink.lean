import HttpTap.Proofs.Capture.BufferFirst
import HttpTap.Proofs.Capture.Copies
import HttpTap.Proofs.Capture.Installing
import HttpTap.Proofs.Capture.Lossless

/-!
# A sink that fails

A sink may take some attributes and then fail.  The hooks of a recorder read a body, swap it and put
attributes, all behind one guard, and what a failing sink costs is settled by the order of these
three.

* The attributes are put last, and only two of them, the text of the body before its size.  So all
  that a sink ever sees is these two, as far as it takes them (`exists_offered`).
* The swap is done by then.  A message that takes the copy of a body that could be read only once
  has it, whatever becomes of the attributes (`holdsBody_of_swap`).

`Sink.offered` is what becomes of a sink that is offered attributes one after the other.
That the copy has all that the stream of the entity gave is known of every entity
(`exists_copies_of_capture`).

`hook_effects` says both of either hook.
-/

namespace HttpTap

/-! ## The two hooks -/

/-- A recorder works in two directions. -/
inductive Direction where
  | outgoing
  | incoming

namespace Direction

/-- The attributes of a direction. -/
def keys : Direction → BodyKeys
  | outgoing => requestKeys
  | incoming => responseKeys

/-- Is the direction recorded? -/
def records : Direction → CaptureSettings → Bool
  | outgoing, s => s.recordsRequests
  | incoming, s => s.recordsResponses

/-- Capture an entity. -/
def captures : Direction → CaptureSettings → Option (Ref Entity) → Act RecordResult
  | outgoing => Act.beforeSend
  | incoming => Act.afterReceive

/-- Record a message. -/
def hook : Direction → CaptureSettings → Target → Option (Ref Message) → Act Unit
  | outgoing => Act.onStart
  | incoming => Act.onEnd

/-- What a message of the direction is called. -/
def word : Direction → String
  | outgoing => "request"
  | incoming => "response"

theorem captures_eq (d : Direction) (s : CaptureSettings) :
    d.captures s = Act.recordEntity (d.records s) s.limit d.keys := by
  cases d <;> rfl

theorem hook_none (d : Direction) (s : CaptureSettings) (t : Target) :
    d.hook s t none = pure () := by
  cases d <;> rfl

theorem hook_some (d : Direction) (s : CaptureSettings) (t : Target) (m : Ref Message) :
    d.hook s t (some m) =
      if d.records s then Act.recordMessage t m d.word (d.captures s) else pure () := by
  cases d <;> rfl

theorem keys_apart (d : Direction) : d.keys.body ≠ d.keys.size := by
  cases d <;> decide

end Direction

/-! ## Sinks -/

namespace Sink

variable {s : Sink} {keys : BodyKeys} {key : String} {as : List (String × Value)}

/-- What becomes of a sink that is offered attributes one after the other: it takes them until it
fails. -/
def offered (s : Sink) : List (String × Value) → Sink
  | [] => s
  | a :: as => if s.remaining = some 0 then s else (s.put a.1 a.2).offered as

/-- A key that is not offered keeps its value. -/
theorem lookup_offered_other (apart : ∀ a ∈ as, key ≠ a.1) (s : Sink) :
    (s.offered as).entries.lookup key = s.entries.lookup key := by
  induction as generalizing s with
  | nil => rfl
  | cons a as ih =>
    by_cases full : s.remaining = some 0
    · rw [offered, if_pos full]
    · rw [offered, if_neg full, ih (fun a' ha' => apart a' (List.mem_cons_of_mem _ ha'))]
      exact lookup_putEntry_other (apart a List.mem_cons_self) s.entries a.2

end Sink

/-- What is put of a body is nothing, or its text and then its size. -/
theorem bodyAttributes_cases (keys : BodyKeys) (body : Option CapturedBody) :
    bodyAttributes keys body = [] ∨ ∃ text size, text ≠ "" ∧
      bodyAttributes keys body = [(keys.body, .text text), (keys.size, size)] := by
  cases body with
  | none => exact .inl rfl
  | some b =>
    by_cases empty : b.text = ""
    · exact .inl (by rw [bodyAttributes, if_pos empty])
    · exact .inr ⟨b.text, b.size, empty, by rw [bodyAttributes, if_neg empty]⟩

theorem key_of_mem_bodyAttributes {keys : BodyKeys} {body : Option CapturedBody}
    {a : String × Value} (h : a ∈ bodyAttributes keys body) :
    a.1 = keys.body ∨ a.1 = keys.size := by
  rcases bodyAttributes_cases keys body with none | ⟨text, size, -, two⟩
  · rw [none] at h
    exact absurd h List.not_mem_nil
  · rw [two, List.mem_cons, List.mem_singleton] at h
    rcases h with rfl | rfl
    · exact .inl rfl
    · exact .inr rfl

/-- A sink that does not fail takes both attributes of a body, or is offered none. -/
theorem Sink.offered_both {s : Sink} (sound : s.remaining = none) {keys : BodyKeys}
    (apart : keys.body ≠ keys.size) (body : Option CapturedBody) :
    (s.offered (bodyAttributes keys body)).entries = s.entries ∨ ∃ text size,
      (s.offered (bodyAttributes keys body)).entries.lookup keys.body = some (.text text) ∧
      (s.offered (bodyAttributes keys body)).entries.lookup keys.size = some size := by
  have takes : ∀ s' : Sink, s'.remaining = none → ¬ s'.remaining = some 0 := by
    intro s' sound
    rw [sound]
    exact nofun
  rcases bodyAttributes_cases keys body with none | ⟨text, size, -, two⟩
  · exact .inl (by rw [none, offered])
  · have after : ∀ v, (s.put keys.body v).remaining = none := fun v => by rw [put, sound]; rfl
    refine .inr ⟨text, size, ?_, ?_⟩ <;>
      rw [two, offered, if_neg (takes s sound), offered, if_neg (takes _ (after _)), offered]
    · exact (lookup_putEntry_other apart _ _).trans (lookup_putEntry_same _ _ _)
    · exact lookup_putEntry_same _ _ _

namespace Act

open World

variable {w w' : World} {m : Ref Message} {r : Ref Sink}

theorem go_putAttributes_sink (r : Ref Sink) (as : List (String × Value)) (w : World) :
    (go (putAttributes (.sink r) as) w).2.sinks.get r = (w.sinks.get r).offered as ∧
      ∀ q, q ≠ r → (go (putAttributes (.sink r) as) w).2.sinks.get q = w.sinks.get q := by
  induction as generalizing w with
  | nil => exact ⟨rfl, fun _ _ => rfl⟩
  | cons a as ih =>
    show (go (putAttribute (.sink r) a.1 a.2 >>= fun _ => putAttributes (.sink r) as) w).2.sinks.get
      r = _ ∧ ∀ q, q ≠ r →
        (go (putAttribute (.sink r) a.1 a.2 >>= fun _ => putAttributes (.sink r) as) w).2.sinks.get
          q = _
    rw [go_bind, go_putAttribute_sink]
    by_cases full : (w.sinks.get r).remaining = some 0
    · rw [if_pos full, Sink.offered, if_pos full]
      exact ⟨rfl, fun _ _ => rfl⟩
    · rw [if_neg full, Sink.offered, if_neg full]
      dsimp only
      obtain ⟨same, others⟩ := ih { w with
        sinks := w.sinks.set r ((w.sinks.get r).put a.1 a.2) }
      refine ⟨?_, fun q apart => ?_⟩
      · rw [same, Store.get_set_same]
      · rw [others q apart, Store.get_set_other apart]

/-- A guard that writes a line tells a sink nothing. -/
theorem sinks_attempt_say (a : Act Unit) (line : Fault → LogRecord) (w : World) :
    (go (attempt a fun f => say (line f)) w).2.sinks = (go a w).2.sinks := by
  rw [go_attempt]
  cases go a w with
  | mk outcome w' =>
    cases outcome with
    | ok u => rfl
    | error f =>
      dsimp only
      split <;> rfl

/-- What is recorded of a message are the attributes of a body. -/
theorem exists_body_of_attributesOf {enabled : Bool} {limit : Int} {keys : BodyKeys}
    {attributes : List (String × Value)}
    (given : go (attributesOf m (recordEntity enabled limit keys)) w = (.ok attributes, w')) :
    ∃ body, attributes = bodyAttributes keys body := by
  obtain ⟨e, w₁, -, given⟩ := exists_of_go_bind given
  obtain ⟨result, w₂, hooked, given⟩ := exists_of_go_bind given
  have same : result.attributes = attributes := by
    split at given
    · obtain ⟨u, w₃, -, given⟩ := exists_of_go_bind given
      exact Except.ok.inj (Prod.mk.inj given).1
    · exact Except.ok.inj (Prod.mk.inj given).1
  rw [recordEntity] at hooked
  split at hooked
  · obtain ⟨captured, w₃, -, hooked⟩ := exists_of_go_bind hooked
    obtain rfl := Except.ok.inj (Prod.mk.inj hooked).1
    exact ⟨captured.body, same.symm⟩
  · obtain rfl := Except.ok.inj (Prod.mk.inj hooked).1
    exact ⟨none, same.symm⟩

/-- All that a hook does to sinks is to offer one of them the attributes of a body. -/
theorem exists_offered (d : Direction) (s : CaptureSettings) (r : Ref Sink)
    (message : Option (Ref Message)) (w : World) :
    ∃ body, (go (d.hook s (.sink r) message) w).2.sinks.get r =
        (w.sinks.get r).offered (bodyAttributes d.keys body) ∧
      ∀ q, q ≠ r → (go (d.hook s (.sink r) message) w).2.sinks.get q = w.sinks.get q := by
  cases message with
  | none =>
    rw [d.hook_none]
    exact ⟨none, rfl, fun _ _ => rfl⟩
  | some m =>
    rw [d.hook_some]
    by_cases records : d.records s = true
    · rw [if_pos records, recordMessage_eq, sinks_attempt_say, d.captures_eq]
      have untold := untold_attributesOf m (d.records s) s.limit d.keys w
      cases given : go (attributesOf m (recordEntity (d.records s) s.limit d.keys)) w with
      | mk outcome w₁ =>
        rw [given] at untold
        cases outcome with
        | error f =>
          rw [go_bind_of_error given]
          exact ⟨none, by rw [untold.sinks]; rfl, fun q _ => by rw [untold.sinks]⟩
        | ok attributes =>
          obtain ⟨body, rfl⟩ := exists_body_of_attributesOf given
          obtain ⟨same, others⟩ := go_putAttributes_sink r (bodyAttributes d.keys body) w₁
          rw [go_bind_of_ok given, ← untold.sinks]
          exact ⟨body, same, others⟩
    · rw [if_neg records]
      exact ⟨none, rfl, fun _ _ => rfl⟩

end Act

/-! ## The swap -/

/-- The message has `c` for its body. -/
def World.HoldsBody (w : World) (m : Ref Message) (c : Bytes) : Prop :=
  match w.messages.get m with
  | .plain (some e) _ => w.Stores e c
  | .request (some q) => (w.requests.get q).body = .bytes c
  | .response (some p) => (w.responses.get p).content = .held (.bytes c)
  | _ => False

namespace World

variable {w w' : World} {m : Ref Message} {e : Ref Entity} {c : Bytes}

theorem holdsBody_plain {status : Option Item} (message : w.messages.get m = .plain (some e) status)
    (stores : w.Stores e c) : w.HoldsBody m c := by
  rw [HoldsBody, message]
  exact stores

theorem holdsBody_request {q : Ref Request} (message : w.messages.get m = .request (some q))
    (body : (w.requests.get q).body = .bytes c) : w.HoldsBody m c := by
  rw [HoldsBody, message]
  exact body

theorem holdsBody_response {p : Ref Response} (message : w.messages.get m = .response (some p))
    (content : (w.responses.get p).content = .held (.bytes c)) : w.HoldsBody m c := by
  rw [HoldsBody, message]
  exact content

theorem HoldsBody.told (h : w.HoldsBody m c) (told : w.Told w') : w'.HoldsBody m c := by
  rw [HoldsBody] at h ⊢
  rw [told.messages]
  split at h
  · rw [Stores, told.entities]
    exact h
  · rw [told.requests]
    exact h
  · rw [told.responses]
    exact h
  · exact h

end World

namespace Act

open World

variable {w w₁ w₂ w₃ w' : World} {m : Ref Message} {e : Ref Entity} {c : Bytes}

/-- A message that takes a copy has its bytes for its body. -/
theorem holdsBody_of_setMessageEntity (stores : w.Stores e c)
    (swapped : go (setMessageEntity m (some e)) w = (.ok (), w')) : w'.HoldsBody m c := by
  obtain ⟨type, encoding, held⟩ := stores
  have bytes : go (entityBytes e) w = (.ok (.bytes c), w) := go_entityBytes_stored held
  have assigned := swapped
  rw [setMessageEntity, go_bind, go_view] at assigned
  cases message : w.messages.get m with
  | plain x status =>
    rw [message] at assigned
    obtain rfl := (Prod.mk.inj assigned).2
    exact holdsBody_plain (Store.get_set_same _ _ _) ⟨type, encoding, held⟩
  | bare status =>
    rw [message] at assigned
    obtain rfl := (Prod.mk.inj assigned).2
    exact holdsBody_plain (Store.get_set_same _ _ _) ⟨type, encoding, held⟩
  | readOnly x status =>
    rw [message] at assigned
    exact absurd (Prod.mk.inj assigned).1 (by simp)
  | broken f status =>
    rw [message] at assigned
    exact absurd (Prod.mk.inj assigned).1 (by simp)
  | request q =>
    rw [message] at assigned
    dsimp only at assigned
    rw [go_bind_of_ok bytes] at assigned
    cases q with
    | none => exact absurd (Prod.mk.inj assigned).1 (by simp)
    | some q =>
      cases headers : (w.requests.get q).headers with
      | none =>
        obtain ⟨f, failed⟩ := go_installBody_of_bare headers (.bytes c)
        exact absurd (Prod.mk.inj (failed.symm.trans assigned)).1 (by simp)
      | some h =>
        rw [go_setMessageEntity_request message headers ⟨type, encoding, held⟩] at swapped
        obtain rfl := (Prod.mk.inj swapped).2
        exact holdsBody_request message (congrArg Request.body (Store.get_set_same _ _ _))
  | response p =>
    rw [message] at assigned
    dsimp only at assigned
    rw [go_bind_of_ok bytes] at assigned
    cases p with
    | none => exact absurd (Prod.mk.inj assigned).1 (by simp)
    | some p =>
      rw [go_setMessageEntity_response message ⟨type, encoding, held⟩] at swapped
      obtain rfl := (Prod.mk.inj swapped).2
      exact holdsBody_response message (congrArg Response.content (Store.get_set_same _ _ _))

variable {d : Direction} {s : CaptureSettings} {entity : Option (Ref Entity)}
  {result : RecordResult}

/-- A message that takes the copy of its entity has all that the stream of the entity gives,
whatever becomes of the attributes. -/
theorem holdsBody_of_swap (t : Target)
    (owned : go (orNothing (messageEntity m) none) w = (.ok entity, w₁))
    (captured : go (d.captures s entity) w₁ = (.ok result, w₂))
    (replaced : result.replaced = true)
    (swapped : go (setMessageEntity m result.entity) w₂ = (.ok (), w₃)) :
    ∃ e c w', go (d.hook s t (some m)) w = (.ok (), w') ∧ entity = some e ∧
      w₁.DrainsTo bufferChunkSize e c ∧ w'.HoldsBody m c := by
  have hooked := captured
  rw [d.captures_eq, recordEntity] at captured
  split at captured
  · next records =>
    obtain ⟨r, w₂, ran, given⟩ := exists_of_go_bind captured
    obtain ⟨same, rfl⟩ := Prod.mk.inj given
    obtain rfl := Except.ok.inj same
    obtain ⟨e, e', c, rfl, kept, copies⟩ := exists_copies_of_capture ran replaced
    have assigned : go (if r.replaced then setMessageEntity m r.entity else pure ()) w₂ =
        (.ok (), w₃) := by
      rw [if_pos replaced]
      exact swapped
    obtain ⟨w', recorded, told⟩ := go_recordMessage t d.word owned hooked assigned
    dsimp only at swapped
    rw [kept] at swapped
    refine ⟨e, c, w', ?_, rfl, copies.drains, ?_⟩
    · rw [d.hook_some, if_pos records]
      exact recorded
    · exact (holdsBody_of_setMessageEntity copies.stores swapped).told told
  · obtain rfl := Except.ok.inj (Prod.mk.inj captured).1
    exact absurd replaced Bool.false_ne_true

/-! ## Either hook -/

/-- Whatever the message and however many attributes the sink takes before it fails, a hook offers
it nothing, or the text of a body and then its size.  The other keys of the sink keep their values,
and so do all other sinks; a sink that does not fail takes both attributes or none.  If the entity
of the message was replaced and the message takes the copy, the hook ends well, and the message has
all that the stream of the entity gives, wherever the attributes are put and whatever fails
there. -/
theorem hook_effects (d : Direction) (s : CaptureSettings) (message : Option (Ref Message))
    (w : World) :
    (∀ r : Ref Sink,
      (∃ attributes, (attributes = [] ∨ ∃ text size, text ≠ "" ∧
          attributes = [(d.keys.body, .text text), (d.keys.size, size)]) ∧
        (go (d.hook s (.sink r) message) w).2.sinks.get r =
          (w.sinks.get r).offered attributes) ∧
      (∀ key, key ≠ d.keys.body → key ≠ d.keys.size →
        ((go (d.hook s (.sink r) message) w).2.sinks.get r).entries.lookup key =
          (w.sinks.get r).entries.lookup key) ∧
      (∀ q, q ≠ r → (go (d.hook s (.sink r) message) w).2.sinks.get q = w.sinks.get q) ∧
      ((w.sinks.get r).remaining = none →
        ((go (d.hook s (.sink r) message) w).2.sinks.get r).entries = (w.sinks.get r).entries ∨
        ∃ text size,
          ((go (d.hook s (.sink r) message) w).2.sinks.get r).entries.lookup d.keys.body =
            some (.text text) ∧
          ((go (d.hook s (.sink r) message) w).2.sinks.get r).entries.lookup d.keys.size =
            some size)) ∧
    ∀ (t : Target) (m : Ref Message) (entity : Option (Ref Entity)) (result : RecordResult)
      (w₁ w₂ w₃ : World), message = some m →
      go (orNothing (messageEntity m) none) w = (.ok entity, w₁) →
      go (d.captures s entity) w₁ = (.ok result, w₂) → result.replaced = true →
      go (setMessageEntity m result.entity) w₂ = (.ok (), w₃) →
      ∃ e c w', go (d.hook s t message) w = (.ok (), w') ∧ entity = some e ∧
        w₁.DrainsTo bufferChunkSize e c ∧ w'.HoldsBody m c := by
  refine ⟨fun r => ?_, ?_⟩
  · obtain ⟨body, offered, others⟩ := exists_offered d s r message w
    refine ⟨⟨_, bodyAttributes_cases d.keys body, offered⟩, ?_, others, ?_⟩
    · intro key body size
      rw [offered]
      refine Sink.lookup_offered_other (fun a ha => ?_) _
      rcases key_of_mem_bodyAttributes ha with same | same <;> rw [same] <;> assumption
    · intro sound
      rw [offered]
      exact Sink.offered_both sound d.keys_apart body
  · rintro t m entity result w₁ w₂ w₃ rfl owned captured replaced swapped
    exact holdsBody_of_swap t owned captured replaced swapped

/-- Settings by which requests are recorded. -/
def requestsAlone : CaptureSettings := { CaptureSettings.standard with requests := .bool true }

/-- A message whose entity can be read once, and a sink that takes one more attribute. -/
def oneMorePut : World := { inPairs with
  messages := (Store.empty.alloc (.plain (some ⟨0⟩) none)).2
  sinks := (Store.empty.alloc ⟨[("http.method", .text "PUT")], some 1⟩).2 }

/-- The sink fails at the size, and the message has the three bytes. -/
theorem hook_effects_oneMorePut :
    ∃ w', go (onStart requestsAlone (.sink ⟨0⟩) (some ⟨0⟩)) oneMorePut = (.ok (), w') ∧
      w'.HoldsBody ⟨0⟩ [97, 98, 99] ∧
      (w'.sinks.get ⟨0⟩).entries.lookup "http.method" = some (.text "PUT") := by
  have hx : oneMorePut.entities.get ⟨0⟩ = .once ⟨0⟩ false (.int (-1)) (.text "a/b") .null := rfl
  have serves : oneMorePut.Serves bufferChunkSize ⟨0⟩ [97, 98, 99] :=
    ⟨(StandIn.delivers rfl rfl (by decide) _).embed Ground.embeds_standIn,
      (StandIn.closesCleanly rfl rfl).embed Ground.embeds_standIn⟩
  have offers : oneMorePut.Offers bufferChunkSize ⟨0⟩ false [97, 98, 99] := offers_once hx serves
  obtain ⟨body, e', w₂, captured, -, -, -⟩ := go_capture_of_once (d := -1) (go_contentLength hx rfl)
    rfl (by decide) requestsAlone.limit_pos (show 0 < bufferChunkSize by decide) offers
  have hooked : go (Direction.outgoing.captures requestsAlone (some ⟨0⟩)) oneMorePut =
      (.ok ⟨bodyAttributes requestKeys body, some e', true⟩, w₂) := by
    rw [Direction.captures_eq, recordEntity, if_pos (by decide), go_bind_of_ok captured]
    rfl
  have swapped : go (setMessageEntity ⟨0⟩ (some e')) w₂ = (.ok (), { w₂ with
      messages := w₂.messages.set ⟨0⟩ (.plain (some e') none) }) := by
    have consulted : oneMorePut.Consulted w₂ := (keeps_capture _ _ _).of_go captured
    have message : w₂.messages.get ⟨0⟩ = .plain (some ⟨0⟩) none := by
      rw [consulted.messages]
      rfl
    rw [setMessageEntity, go_bind, go_view, message]
    rfl
  have effects := hook_effects .outgoing requestsAlone (some ⟨0⟩) oneMorePut
  obtain ⟨e, c, w', ran, found, drains, holds⟩ := effects.2 (.sink ⟨0⟩) ⟨0⟩ (some ⟨0⟩) _ oneMorePut
    w₂ _ rfl rfl hooked rfl swapped
  obtain rfl := Option.some.inj found
  obtain rfl := drains.eq_of_offers offers (by decide)
  have kept := (effects.1 ⟨0⟩).2.1 "http.method" (by decide) (by decide)
  rw [ran] at kept
  exact ⟨w', ran, holds, kept⟩

end Act
end HttpTap
