import HttpTap.Proofs.Capture.Emptied
import HttpTap.Proofs.Span.Lookup

/-!
# The length that an entity declares

An entity that opens once may declare a length, and nothing makes it true.  Recorded on its own such
an entity is captured with the length that it declares.  On the way to a handler it is buffered
first, and the buffered copy declares how many bytes it holds; what the entity had declared is lost.

`handleResponse_afterReceive_iff` compares the two.  The same is recorded exactly if nothing is
recorded, if there are no bytes, if no length is declared, or if the right one is.  Otherwise the
sizes differ, and a body that is declared to be empty is recorded on one way only.
-/

namespace HttpTap

/-- The entity opens once, declares the length `d`, and its stream serves `c` to reads of at most
the size of a chunk. -/
def World.OpensOnce (w : World) (e : Ref Entity) (d : Int) (c : Bytes) : Prop :=
  ∃ r type encoding, w.entities.get e = .once r false (.int d) type encoding ∧
    w.Serves bufferChunkSize r c

/-! ## Attributes from either length -/

section Attributes

variable {keys : BodyKeys} {limit d : Int} {observed : Option Nat} {c : Bytes}

/-- The attributes of some bytes that are not declared to be none. -/
theorem attributesFrom_filled (keys : BodyKeys) (observed : Option Nat) (pos : 0 < limit)
    (some_length : d ≠ 0) (filled : c ≠ []) :
    ∃ text, attributesFrom keys limit (.ok d) observed c =
      [(keys.body, .text text),
        (keys.size, .int (if 0 ≤ d then d else observed.getD (c.take limit.toNat).length))] := by
  have bytes := take_ne_nil pos filled
  refine ⟨capturedText (c.take limit.toNat)
    (decide (limit.toNat < c.length) || decide (limit < d)), ?_⟩
  rw [attributesFrom, if_neg some_length, capturedBody_int bytes]
  dsimp only
  rw [bodyAttributes, if_neg (capturedText_ne_empty bytes _)]

/-- The size that is recorded. -/
theorem lookup_size_attributesFrom (apart : keys.size ≠ keys.body) (pos : 0 < limit)
    (filled : c ≠ []) :
    (attributesFrom keys limit (.ok d) observed c).lookup keys.size =
      if d = 0 then none
      else some (.int (if 0 ≤ d then d else observed.getD (c.take limit.toNat).length)) := by
  by_cases zero : d = 0
  · rw [if_pos zero, attributesFrom, if_pos zero]
    rfl
  · obtain ⟨text, attributes⟩ := attributesFrom_filled keys observed pos zero filled
    rw [if_neg zero, attributes, List.lookup_cons, beq_eq_false_iff_ne.2 apart]
    exact List.lookup_cons_self

/-- The attributes come under two keys, each of them once. -/
theorem reverse_attributesFrom (apart : keys.size ≠ keys.body) (length : Except Fault Int)
    (key : String) :
    (attributesFrom keys limit length observed c).reverse.lookup key =
      (attributesFrom keys limit length observed c).lookup key := by
  have shape : ∀ body, (bodyAttributes keys body).reverse.lookup key =
      (bodyAttributes keys body).lookup key := by
    intro body
    cases body with
    | none => rfl
    | some b =>
      rw [bodyAttributes]
      split
      · rfl
      · show [(keys.size, b.size), (keys.body, .text b.text)].lookup key = _
        by_cases size : key = keys.size
        · subst size
          rw [List.lookup_cons_self, List.lookup_cons, beq_eq_false_iff_ne.2 apart]
          exact List.lookup_cons_self.symm
        · have other : (key == keys.size) = false := beq_eq_false_iff_ne.2 size
          simp only [List.lookup_cons, other, List.lookup_nil]
  unfold attributesFrom
  split
  · rfl
  · split
    · rfl
    · split
      · exact shape _
      · rfl

/-- The declared length and the number of bytes give the same attributes exactly if there is nothing
to record, nothing declared, or if they are the same. -/
theorem lookup_attributesFrom_iff (apart : keys.size ≠ keys.body) (pos : 0 < limit) :
    (∀ key ∈ [keys.body, keys.size], (attributesFrom keys limit (.ok c.length) none c).lookup key =
        (attributesFrom keys limit (.ok d) (some c.length) c).lookup key) ↔
      c = [] ∨ d < 0 ∨ d = c.length := by
  constructor
  · intro same
    by_contra differ
    obtain ⟨filled, known, wrong⟩ : c ≠ [] ∧ 0 ≤ d ∧ d ≠ c.length := by
      refine ⟨fun none => differ (.inl none), ?_, fun right => differ (.inr (.inr right))⟩
      exact Int.not_lt.1 fun unknown => differ (.inr (.inl unknown))
    have some_bytes : (c.length : Int) ≠ 0 := by
      have := List.length_pos_iff.2 filled
      omega
    have sizes := same keys.size (by simp)
    rw [lookup_size_attributesFrom apart pos filled, lookup_size_attributesFrom apart pos filled,
      if_neg some_bytes, if_pos (Int.natCast_nonneg _), if_pos known] at sizes
    by_cases zero : d = 0
    · rw [if_pos zero] at sizes
      exact nomatch sizes
    · rw [if_neg zero] at sizes
      exact wrong (Value.int.inj (Option.some.inj sizes)).symm
  · intro agree key _
    by_cases filled : c = []
    · subst filled
      rw [attributesFrom_nil, attributesFrom_nil]
    rcases agree with none | unknown | right
    · exact absurd none filled
    · rw [attributesFrom_unknown keys pos unknown filled]
    · subst right
      rw [attributesFrom_declared keys pos (Int.natCast_nonneg _) filled (some _)]

end Attributes

namespace Act

open World

variable {w w' : World} {e e' : Ref Entity} {m : Ref Message} {r : Ref Span} {s : CaptureSettings}
  {d : Int} {c : Bytes} {status : Option Item}

/-! ## On its own -/

/-- An entity that is recorded on its own is recorded with the length that it declares. -/
theorem go_afterReceive_of_once (s : CaptureSettings) (once : w.OpensOnce e d c) :
    ∃ result w', go (afterReceive s (some e)) w = (.ok result, w') ∧
      result.attributes = if s.recordsResponses then
        attributesFrom responseKeys s.limit (.ok d) (some c.length) c else [] := by
  by_cases records : s.recordsResponses = true
  · rw [if_pos records]
    obtain ⟨r, type, encoding, hx, serves⟩ := once
    have length : go (contentLength e) w = (.ok (.int d), w) := go_contentLength hx rfl
    have recorded {captured : CaptureResult} {w' : World}
        (capture : go (capture s.limit bufferChunkSize (some e)) w = (.ok captured, w')) :
        go (afterReceive s (some e)) w = (.ok ⟨bodyAttributes responseKeys captured.body,
          captured.entity, captured.replaced⟩, w') := by
      rw [afterReceive, recordEntity, if_pos records, go_bind_of_ok capture]
      rfl
    by_cases zero : d = 0
    · subst zero
      exact ⟨_, w, recorded (go_capture_of_zero length rfl), rfl⟩
    · have offers : w.Offers bufferChunkSize e false c := offers_once hx serves
      obtain ⟨e₁, w₁, prepared, copy⟩ := go_prepareEntity_of_once length
        (filled_of_integer? rfl zero) offers (show 0 < bufferChunkSize by decide)
      obtain ⟨body, made, -⟩ := exists_capturedBody (show (Value.int d).integer? = some d from rfl)
        s.limit_pos false (show some c.length = if false then none else some c.length from rfl)
      obtain ⟨w₂, read⟩ := go_readBody_of_made (p := ⟨e₁, .int d, some c.length, true⟩) copy.offers
        s.limit_pos made
      refine ⟨_, w₂, recorded (go_capture_of_prepared prepared read), ?_⟩
      show bodyAttributes responseKeys body = _
      rw [attributesFrom, if_neg zero, made]
  · rw [if_neg records, afterReceive, recordEntity, if_neg records]
    exact ⟨_, w, rfl, rfl⟩

/-! ## On the way to a handler -/

/-- The entity of a plain message is replaced by a copy, and no span is told. -/
theorem go_makeResponseRepeatable_of_once (records : s.recordsResponses = true)
    (message : w.messages.get m = .plain (some e) status) (once : w.OpensOnce e d c) :
    ∃ e₁ w₁, go (makeResponseRepeatable s (some m)) w = (.ok (), w₁) ∧
      w₁.messages.get m = .plain (some e₁) status ∧
      (∃ type encoding, w₁.entities.get e₁ = .stored false c type encoding) ∧
      w₁.spans = w.spans := by
  obtain ⟨r, type, encoding, hx, serves⟩ := once
  have entity : go (messageEntity m) w = (.ok (some e), w) := by
    rw [messageEntity, go_bind, go_view, message]
    rfl
  have flagged : go (repeatable e) w = (.ok (.bool false), w) := go_repeatable hx rfl
  obtain ⟨e₁, w₁, repeated, copy⟩ :=
    go_makeRepeatable (offers_once hx serves) (show 0 < bufferChunkSize by decide)
  have consulted : w.Consulted w₁ := (keeps_makeRepeatable e bufferChunkSize).of_go repeated
  have message₁ : w₁.messages.get m = .plain (some e) status := by
    rw [consulted.messages]
    exact message
  set w₂ : World := { w₁ with messages := w₁.messages.set m (.plain (some e₁) status) }
  have assigned : go (setMessageEntity m (some e₁)) w₁ = (.ok (), w₂) := by
    rw [setMessageEntity, go_bind, go_view, message₁]
    rfl
  refine ⟨e₁, w₂, ?_, Store.get_set_same _ _ _, copy.holds, consulted.spans⟩
  rw [makeResponseRepeatable, if_pos records, go_attempt, go_bind_of_ok entity,
    go_bind_of_ok flagged, if_neg (by exact Bool.false_ne_true), go_bind_of_ok repeated,
    if_pos rfl, assigned]

/-- A copy in a message is recorded with the number of bytes that it holds. -/
theorem go_onEnd_of_stored (records : s.recordsResponses = true)
    (message : w.messages.get m = .plain (some e) status)
    (stored : ∃ type encoding, w.entities.get e = .stored false c type encoding)
    (listens : (w.spans.get r).Listens) :
    ∃ w', go (onEnd s (.span r) (some m)) w = (.ok (), w') ∧
      w'.spans.get r =
        (w.spans.get r).putAll (attributesFrom responseKeys s.limit (.ok c.length) none c) := by
  obtain ⟨type, encoding, hx⟩ := stored
  have entity : go (messageEntity m) w = (.ok (some e), w) := by
    rw [messageEntity, go_bind, go_view, message]
    rfl
  have declared : w.lengthOf (.stored false c type encoding) =
      (Except.ok (c.length : Int)).map .int := rfl
  obtain ⟨w₁, given, -⟩ := go_attributesOf_of_offers responseKeys entity hx rfl declared trivial
    ((offers_stored hx).mono (show Value.maxCount ≤ largestSize by decide)) s.limit_pos
    fun _ _ _ once => Bool.noConfusion once
  have same : w₁.spans = w.spans :=
    ((untold_attributesOf m true s.limit responseKeys).of_go given).spans
  obtain ⟨w₂, recorded, -, untold⟩ := go_onEnd_of_attributes (.span r) records given
  obtain ⟨w₃, puts, told⟩ := go_putAttributes_of_listens (w := w₁) (r := r)
    (by rw [same]; exact listens) (attributesFrom responseKeys s.limit (.ok c.length) none c)
  refine ⟨w₂, recorded, ?_⟩
  have spans : w₂.spans = w₃.spans := by
    have := untold.spans
    rwa [show observedLength (w.isRepeatable (.stored false c type encoding)) c = none from rfl,
      puts] at this
  rw [spans, told, same]

/-- A response is buffered and recorded, its span is closed, and the handler runs under the context
that is put back. -/
theorem handleResponse_eq {α : Type} (s : CaptureSettings) (r : Ref Span) (parent : Option Context)
    (m : Option (Ref Message)) (handler : Act α) :
    handleResponse s r parent m handler =
      (makeResponseRepeatable s m >>= fun _ => onEnd s (.span r) m >>= fun _ =>
        closeSpan r m >>= fun _ => parent.elim handler fun c => within c handler) := by
  cases parent <;> rfl

/-- Until a handler has run, the span of a response has been told the attributes of the copy, under
their keys, and nothing else but the status. -/
theorem attribute?_handleResponse {α : Type} {handler : Act α} {key : String}
    (parent : Option Context) (message : w.messages.get m = .plain (some e) status)
    (once : w.OpensOnce e d c) (listens : (w.spans.get r).Listens) (apart : key ≠ statusKey)
    (leaves : Keeps (SameAttribute r key) handler) :
    ((go (handleResponse s r parent (some m) handler) w).2.spans.get r).attribute? key =
      ((if s.recordsResponses then
        attributesFrom responseKeys s.limit (.ok c.length) none c else []).lookup key).or
      ((w.spans.get r).attribute? key) := by
  have handled : Keeps (SameAttribute r key) (closeSpan r (some m) >>= fun _ =>
      parent.elim handler fun c => within c handler) := by
    refine (keeps_closeSpan_attribute apart _).bind fun _ => ?_
    cases parent with
    | none => exact leaves
    | some c => exact keeps_within_attribute c leaves
  by_cases records : s.recordsResponses = true
  · obtain ⟨e₁, w₁, buffered, message₁, stored, spans⟩ :=
      go_makeResponseRepeatable_of_once records message once
    obtain ⟨w₂, recorded, told⟩ := go_onEnd_of_stored (r := r) records message₁ stored
      (by rw [spans]; exact listens)
    rw [handleResponse_eq, if_pos records, go_bind_of_ok buffered, go_bind_of_ok recorded]
    refine (handled w₂).trans ?_
    rw [told, spans, Span.attribute?_putAll listens, reverse_attributesFrom (by decide)]
  · have unbuffered : go (makeResponseRepeatable s (some m)) w = (.ok (), w) := by
      rw [makeResponseRepeatable, if_neg records]
      rfl
    have unrecorded : go (onEnd s (.span r) (some m)) w = (.ok (), w) := by
      rw [onEnd, if_neg records]
      rfl
    rw [handleResponse_eq, if_neg records, go_bind_of_ok unbuffered, go_bind_of_ok unrecorded]
    exact handled w

/-! ## Both -/

/-- Two entities open once, declare the length `d` and hold `c`.  One comes in a message to a
handler, whose span was told no body before; the other one is recorded on its own.  Where responses
are recorded, the span is told the number of bytes as the size, and on its own the declared length
is recorded as the size.  So the attributes of the body are the same exactly if nothing is recorded,
if there are no bytes, if no length is declared, or if it is the right one. -/
theorem handleResponse_afterReceive_iff {α : Type} {handler : Act α} (parent : Option Context)
    (message : w.messages.get m = .plain (some e) status)
    (once : w.OpensOnce e d c) (once' : w'.OpensOnce e' d c)
    (listens : (w.spans.get r).Listens)
    (blank : ∀ key ∈ [responseKeys.body, responseKeys.size], (w.spans.get r).attribute? key = none)
    (leaves : ∀ key ∈ [responseKeys.body, responseKeys.size], Keeps (SameAttribute r key) handler) :
    ∃ result v', go (afterReceive s (some e')) w' = (.ok result, v') ∧
      ((∀ key ∈ [responseKeys.body, responseKeys.size],
        ((go (handleResponse s r parent (some m) handler) w).2.spans.get r).attribute? key =
          result.attributes.lookup key) ↔
        (s.recordsResponses = true → c = [] ∨ d < 0 ∨ d = c.length)) ∧
      (s.recordsResponses = true → c ≠ [] →
        ((go (handleResponse s r parent (some m) handler) w).2.spans.get r).attribute?
          responseKeys.size = some (.int c.length) ∧
        result.attributes.lookup responseKeys.size =
          if d = 0 then none else some (.int (if 0 ≤ d then d else c.length))) := by
  have apart : responseKeys.size ≠ responseKeys.body := by decide
  obtain ⟨result, v', received, attributes⟩ := go_afterReceive_of_once s once'
  have told : ∀ key ∈ [responseKeys.body, responseKeys.size],
      ((go (handleResponse s r parent (some m) handler) w).2.spans.get r).attribute? key =
        (if s.recordsResponses then
          attributesFrom responseKeys s.limit (.ok c.length) none c else []).lookup key := by
    intro key mem
    have unlike : key ≠ statusKey := by
      rintro rfl
      exact absurd mem (by decide)
    rw [attribute?_handleResponse parent message once listens unlike (leaves key mem),
      blank key mem, Option.or_none]
  refine ⟨result, v', received, ?_, fun records filled => ⟨?_, ?_⟩⟩
  · rw [attributes]
    by_cases records : s.recordsResponses = true
    · rw [if_pos records]
      rw [if_pos records] at told
      constructor
      · intro same _
        exact (lookup_attributesFrom_iff apart s.limit_pos).1 fun key mem =>
          (told key mem).symm.trans (same key mem)
      · intro agree key mem
        exact (told key mem).trans ((lookup_attributesFrom_iff apart s.limit_pos).2
          (agree records) key mem)
    · rw [if_neg records]
      rw [if_neg records] at told
      exact ⟨fun _ on => absurd on records, fun _ => told⟩
  · have some_bytes : (c.length : Int) ≠ 0 := by
      have := List.length_pos_iff.2 filled
      omega
    rw [told _ (by simp), if_pos records, lookup_size_attributesFrom apart s.limit_pos filled,
      if_neg some_bytes, if_pos (Int.natCast_nonneg _)]
  · rw [attributes, if_pos records, lookup_size_attributesFrom apart s.limit_pos filled]
    rfl

/-- Two entities of three bytes each that declare some length, one of them in a message, and a span
that records. -/
def declaring (d : Int) : World :=
  let source : Source := .ofStandIn (threeBytes none)
  let entity (stream : Nat) : Entity := .once ⟨stream⟩ false (.int d) .null .null
  { World.empty with
    sources := ((Store.empty.alloc source).2.alloc source).2
    streams := ((Store.empty.alloc (.direct ⟨0⟩)).2.alloc (.direct ⟨1⟩)).2
    entities := ((Store.empty.alloc (entity 0)).2.alloc (entity 1)).2
    messages := (Store.empty.alloc (.plain (some ⟨0⟩) (some (.ok (.int 200))))).2
    spans := (Store.empty.alloc (.live ⟨"GET /p", true, none, true, [], none, [], false, 0⟩)).2 }

theorem opensOnce_declaring (d : Int) : (declaring d).OpensOnce ⟨0⟩ d [97, 98, 99] ∧
    (declaring d).OpensOnce ⟨1⟩ d [97, 98, 99] := by
  have delivers := (StandIn.delivers (d := threeBytes none) rfl rfl (by decide)
    bufferChunkSize).embed Ground.embeds_standIn
  have closes := (StandIn.closesCleanly (d := threeBytes none) rfl rfl).embed
    Ground.embeds_standIn
  exact ⟨⟨⟨0⟩, .null, .null, rfl, delivers, closes⟩, ⟨⟨1⟩, .null, .null, rfl, delivers, closes⟩⟩

/-- Declared to be three, the three bytes are recorded alike. -/
theorem handleResponse_afterReceive_iff_declaring :
    ∃ result v', go (afterReceive responsesAlone (some ⟨1⟩)) (declaring 3) = (.ok result, v') ∧
      ∀ key ∈ [responseKeys.body, responseKeys.size],
        ((go (handleResponse responsesAlone ⟨0⟩ none (some ⟨0⟩) (pure ())) (declaring 3)).2.spans.get
          ⟨0⟩).attribute? key = result.attributes.lookup key := by
  obtain ⟨once, once'⟩ := opensOnce_declaring 3
  have blank : ∀ key ∈ [responseKeys.body, responseKeys.size],
      ((declaring 3).spans.get ⟨0⟩).attribute? key = none := fun _ _ => rfl
  have message : (declaring 3).messages.get ⟨0⟩ = .plain (some ⟨0⟩) (some (.ok (.int 200))) := rfl
  obtain ⟨result, v', received, agree, -⟩ := handleResponse_afterReceive_iff (s := responsesAlone)
    (r := ⟨0⟩) none message once once' rfl blank fun _ _ => keeps_pure ()
  exact ⟨result, v', received, agree.2 fun _ => .inr (.inr rfl)⟩

/-- Declared to be five, they are recorded as three and as five. -/
theorem handleResponse_afterReceive_differ :
    (declaring 5).OpensOnce ⟨0⟩ 5 [97, 98, 99] ∧ (declaring 5).OpensOnce ⟨1⟩ 5 [97, 98, 99] ∧
      ∃ result v', go (afterReceive responsesAlone (some ⟨1⟩)) (declaring 5) = (.ok result, v') ∧
      ((go (handleResponse responsesAlone ⟨0⟩ none (some ⟨0⟩) (pure ())) (declaring 5)).2.spans.get
        ⟨0⟩).attribute? responseKeys.size = some (.int 3) ∧
      result.attributes.lookup responseKeys.size = some (.int 5) := by
  obtain ⟨once, once'⟩ := opensOnce_declaring 5
  have apart : responseKeys.size ≠ responseKeys.body := by decide
  have records : responsesAlone.recordsResponses = true := rfl
  obtain ⟨result, v', received, attributes⟩ := go_afterReceive_of_once responsesAlone once'
  have message : (declaring 5).messages.get ⟨0⟩ = .plain (some ⟨0⟩) (some (.ok (.int 200))) := rfl
  have told := attribute?_handleResponse (s := responsesAlone) (r := ⟨0⟩) none message once rfl
    (show responseKeys.size ≠ statusKey by decide) (keeps_pure ())
  rw [if_pos records, lookup_size_attributesFrom apart responsesAlone.limit_pos (by simp)] at told
  rw [if_pos records] at attributes
  refine ⟨once, once', result, v', received, told, ?_⟩
  rw [attributes, lookup_size_attributesFrom apart responsesAlone.limit_pos (by simp)]
  rfl

end Act
end HttpTap
