import HttpTap.Proofs.Capture.Emptied
import HttpTap.Proofs.Exchange.FailingResponse

/-!
# The second reading of a body

A read-once entity that could not be buffered is kept, and the capture goes on to read it, although
a part of it is gone.  That reading is meant to come to nothing: either the entity cannot be opened
again, or its source is drained, or it fails once more.

Whether it does is up to the source.  A source that has failed once may well go on, and then the
text that is recorded begins after the fault (`World.Resumes`).  `capture_keeping_iff` says that
this is the only way to a body for a read-once entity that was not replaced, and tells for each kind
of entity what it means.  In every other case a body begins with the first byte, because everything
was buffered before.
-/

namespace HttpTap

/-- The flag of the entity says that it can be read once, now and whenever it was looked at. -/
def World.ReadOnce (w : World) (e : Ref Entity) : Prop :=
  ∀ w', World.Looks e w w' → ∃ v, (Act.go (Act.repeatable e) w').1 = .ok v ∧ v.truthy = false

/-- The world in which a capture begins to buffer: the length was read, and the flag twice. -/
def World.ready (w : World) (e : Ref Entity) : World :=
  (Act.go (Act.repeatable e) (w.asked e)).2

/-- The line about an entity that is kept because it has failed after so many bytes. -/
def keptLine (data : Bytes) (f : Fault) : LogRecord :=
  .contained Act.repeatableChannel ("Failed to make entity repeatable after " ++
    toString data.length ++ " bytes, keeping original") f

namespace Act

/-- Open an entity, read it up to the limit and close it. -/
def sample (limit : Int) (e : Ref Entity) : Act BoundedRead :=
  closing (openContent e) fun r => readBounded r limit readChunkSize

end Act

namespace World

open Act

/-- The entity declares the length `v`, which is not zero, and buffering it fails with a fault that
is no interrupt. -/
def FailsPartWay (w : World) (chunk : Int) (e : Ref Entity) (v : Value) (w' : World) : Prop :=
  (go (contentLength e) w).1 = .ok v ∧ v.equalsInt 0 = false ∧
    ∃ data f w₁, go (bufferContent e chunk) (w.ready e) = (.ok (data, some f), w₁) ∧
      f.interrupts = false ∧ w' = w₁.say (keptLine data f)

/-- Buffering the entity fails, and reading it once more gives this body. -/
def Resumes (w : World) (limit chunk : Int) (e : Ref Entity) (b : CapturedBody) : Prop :=
  ∃ v w₁, w.FailsPartWay chunk e v w₁ ∧
    ∃ read w₂, go (sample limit e) w₁ = (.ok read, w₂) ∧
      capturedBody limit v none read = .ok (some b)

theorem looks_ready (w : World) (e : Ref Entity) : Looks e w (w.ready e) :=
  (Relation.ReflTransGen.single (.length w)).tail (.repeatable _) |>.tail (.repeatable _)

/-- Looking at an entity of the library changes nothing. -/
theorem ready_eq {w : World} {e : Ref Entity} {x : Entity} (hx : w.entities.get e = x)
    (own : x.isScripted = false) : w.ready e = w :=
  eq_of_looks hx own (looks_ready w e)

/-- The flag is read twice before the entity is buffered. -/
theorem ReadOnce.flags {w : World} {e : Ref Entity} (once : w.ReadOnce e) :
    ∃ flag flag', go (repeatable e) (go (contentLength e) w).2 = (.ok flag, w.asked e) ∧
      flag.truthy = false ∧ go (repeatable e) (w.asked e) = (.ok flag', w.ready e) ∧
      flag'.truthy = false := by
  have looked : Looks e w (go (contentLength e) w).2 := .single (.length w)
  obtain ⟨flag, first, falsy⟩ := once _ looked
  obtain ⟨flag', second, falsy'⟩ := once (w.asked e) (looked.tail (.repeatable _))
  exact ⟨flag, flag', Prod.ext first rfl, falsy, Prod.ext second rfl, falsy'⟩

end World

/-- A spring goes on after a fault: it fails, and a stream that is opened then has a first byte and
comes to the limit without a fault. -/
def Spring.Resumes (k : Spring) (limit : Int) (s : k.State) : Prop :=
  (∃ f, (k.drain s).fault = some f ∧ f.interrupts = false) ∧
    (k.skim limit (k.drain s).rest).fault = none ∧ (k.skim limit (k.drain s).rest).data ≠ []

section Body

variable {limit : Int} {declared : Value} {observed : Option Nat} {read : BoundedRead}
  {b : CapturedBody}

/-- A result of both is a result of the second on a result of the first. -/
theorem exists_of_bind {α β : Type} {a : Except Fault α} {f : α → Except Fault β} {y : β}
    (h : a >>= f = .ok y) : ∃ x, a = .ok x ∧ f x = .ok y := by
  cases a with
  | error g => exact nomatch h
  | ok x => exact ⟨x, rfl, h⟩

/-- The text of a body is that of the bytes that were read. -/
theorem text_of_capturedBody (made : capturedBody limit declared observed read = .ok (some b)) :
    read.data ≠ [] ∧ ∃ cut, b.text = capturedText read.data cut := by
  have sized : ∀ cut, (do
      let size ← bodySize declared observed read.data.length
      return some ⟨capturedText read.data cut, size, cut⟩) = Except.ok (ε := Fault) (some b) →
        b.text = capturedText read.data cut := by
    intro cut made
    obtain ⟨size, -, same⟩ := exists_of_bind made
    obtain rfl := Option.some.inj (Except.ok.inj same)
    rfl
  rw [capturedBody] at made
  dsimp only at made
  split at made
  · exact absurd (Except.ok.inj made) (by simp)
  · rename_i filled
    refine ⟨fun none => filled (List.isEmpty_iff.2 none), ?_⟩
    split at made
    · exact ⟨true, sized true made⟩
    · obtain ⟨cut, -, rest⟩ := exists_of_bind made
      exact ⟨cut, sized cut rest⟩

end Body

namespace Act

open World

variable {w w' : World} {e : Ref Entity} {x : Entity} {k : Spring} {s : k.State}
  {limit chunk : Int} {b : CapturedBody} {v : Value}

/-! ## Preparing a read-once entity -/

/-- Buffering always comes to some bytes, with a fault or without. -/
theorem exists_bufferContent (e : Ref Entity) (chunk : Int) (w : World) :
    ∃ data fault w', go (bufferContent e chunk) w = (.ok (data, fault), w') := by
  rw [bufferContent, go_bind, go_observe]
  cases go (openContent e) w with
  | mk outcome w₁ =>
    cases outcome with
    | error f => exact ⟨[], some f, w₁, rfl⟩
    | ok r =>
      dsimp only
      rw [go_bind, go_drainStream]
      dsimp only
      rw [go_bind, go_observe]
      dsimp only
      cases (go (closeStream r) _).1 with
      | error f => exact ⟨_, some f, _, rfl⟩
      | ok u => exact ⟨_, _, _, rfl⟩

/-- An entity that fails while it is buffered is what will be read. -/
theorem go_prepareEntity_of_fails (once : w.ReadOnce e) (fails : w.FailsPartWay chunk e v w') :
    go (prepareEntity e chunk) w = (.ok (some ⟨e, v, none, false⟩), w') := by
  obtain ⟨length, filled, data, f, w₁, buffered, contained, rfl⟩ := fails
  obtain ⟨flag, flag', flagged, falsy, flagged', falsy'⟩ := once.flags
  have kept := go_makeRepeatable_of_fault flagged' falsy' buffered contained
  rw [go_prepareEntity_of_falsy chunk (Prod.ext length rfl) filled flagged falsy,
    go_bind_of_ok kept]
  rfl

/-- An interrupt ends the capture. -/
theorem go_prepareEntity_of_interrupt {w₁ : World} {data : Bytes} {f : Fault}
    (once : w.ReadOnce e) (length : (go (contentLength e) w).1 = .ok v)
    (filled : v.equalsInt 0 = false)
    (buffered : go (bufferContent e chunk) (w.ready e) = (.ok (data, some f), w₁))
    (interrupts : f.interrupts = true) : go (prepareEntity e chunk) w = (.error f, w₁) := by
  obtain ⟨flag, flag', flagged, falsy, flagged', falsy'⟩ := once.flags
  have failing : go (makeRepeatable e chunk) (w.asked e) = (.error f, w₁) := by
    rw [makeRepeatable, go_bind_of_ok flagged',
      if_neg (by rw [falsy']; exact Bool.false_ne_true), go_bind_of_ok buffered]
    dsimp only
    rw [if_pos interrupts]
    rfl
  rw [go_prepareEntity_of_falsy chunk (Prod.ext length rfl) filled flagged falsy,
    go_bind_of_error failing]

/-- An entity that was buffered to its end is replaced by a copy, unless its descriptions fail. -/
theorem go_prepareEntity_of_data {w₁ : World} {data : Bytes}
    (once : w.ReadOnce e) (length : (go (contentLength e) w).1 = .ok v)
    (filled : v.equalsInt 0 = false)
    (buffered : go (bufferContent e chunk) (w.ready e) = (.ok (data, none), w₁)) :
    (∃ f w', go (prepareEntity e chunk) w = (.error f, w')) ∨
    ∃ e' w', go (prepareEntity e chunk) w = (.ok (some ⟨e', v, some data.length, true⟩), w') ∧
      ∃ type encoding, w'.entities.get e' = .stored false data type encoding := by
  obtain ⟨flag, flag', flagged, falsy, flagged', falsy'⟩ := once.flags
  have preparing := go_prepareEntity_of_falsy chunk (Prod.ext length rfl) filled flagged falsy
  have replacing := go_makeRepeatable_of_data flagged' falsy' buffered
  rw [replaceEntity_eq] at replacing
  cases described : go (describe e) w₁ with
  | mk outcome w₂ =>
    cases outcome with
    | error f =>
      rw [go_bind_of_error described] at replacing
      exact .inl ⟨f, w₂, preparing.trans (go_bind_of_error replacing _)⟩
    | ok d =>
      rw [go_bind_of_ok described] at replacing
      refine .inr ⟨w₂.entities.next, _, preparing.trans (go_bind_of_ok replacing _), d.1, d.2, ?_⟩
      exact Store.get_alloc_same _ _

/-- Preparing a read-once entity gives nothing to read, or the entity after it has failed, or a copy
of all that there is. -/
theorem go_prepareEntity_cases (once : w.ReadOnce e) (chunk : Int) :
    (∃ outcome w', go (prepareEntity e chunk) w = (outcome, w') ∧ ∀ p, outcome ≠ .ok (some p)) ∨
    (∃ v w', w.FailsPartWay chunk e v w') ∨
    ∃ v data w₁ e' w', go (bufferContent e chunk) (w.ready e) = (.ok (data, none), w₁) ∧
      go (prepareEntity e chunk) w = (.ok (some ⟨e', v, some data.length, true⟩), w') ∧
      ∃ type encoding, w'.entities.get e' = .stored false data type encoding := by
  cases length : (go (contentLength e) w).1 with
  | error f =>
    have failed : go (contentLength e) w = (.error f, _) := Prod.ext length rfl
    exact .inl ⟨.error f, _, by rw [prepareEntity, go_bind_of_error failed], nofun⟩
  | ok v =>
    by_cases zero : v.equalsInt 0 = true
    · exact .inl ⟨_, _, go_prepareEntity_of_zero (Prod.ext length rfl) zero, by simp⟩
    · have filled : v.equalsInt 0 = false := Bool.eq_false_iff.2 zero
      obtain ⟨data, fault, w₁, buffered⟩ := exists_bufferContent e chunk (w.ready e)
      cases fault with
      | none =>
        rcases go_prepareEntity_of_data once length filled buffered with
          ⟨f, w', failed⟩ | ⟨e', w', prepared, held⟩
        · exact .inl ⟨.error f, w', failed, nofun⟩
        · exact .inr (.inr ⟨v, data, w₁, e', w', buffered, prepared, held⟩)
      | some f =>
        by_cases interrupts : f.interrupts = true
        · exact .inl ⟨.error f, w₁,
            go_prepareEntity_of_interrupt once length filled buffered interrupts, nofun⟩
        · have contained : f.interrupts = false := Bool.eq_false_iff.2 interrupts
          exact .inr (.inl ⟨v, _, length, filled, data, f, w₁, buffered, contained, rfl⟩)

/-! ## Reading what was prepared -/

theorem go_readBody_of_sample {p : Prepared} {read : BoundedRead} {body : Option CapturedBody}
    (sampled : go (sample limit p.entity) w = (.ok read, w'))
    (made : capturedBody limit p.declared p.observed read = .ok body) :
    go (readBody limit p) w = (.ok body, w') := by
  have through : go (closing (openContent p.entity) fun r => readBounded r limit readChunkSize) w =
      (.ok read, w') := sampled
  rw [readBody, go_attempt, go_bind_of_ok through, go_lift, made]

/-- A body comes from a sample. -/
theorem exists_sample_of_readBody {p : Prepared}
    (found : go (readBody limit p) w = (.ok (some b), w')) :
    ∃ read w₁, go (sample limit p.entity) w = (.ok read, w₁) ∧
      capturedBody limit p.declared p.observed read = .ok (some b) := by
  have guarded (f : Fault) (w₁ : World) : go (do
      say (.contained captureChannel "Failed to capture entity content" f)
      return (none : Option CapturedBody)) w₁ ≠ (.ok (some b), w') := by
    intro same
    exact absurd (Prod.mk.inj same).1 (by simp)
  rw [readBody] at found
  obtain ⟨read, w₁, sampled, lifted⟩ := exists_of_go_bind (of_go_attempt found guarded)
  rw [go_lift] at lifted
  exact ⟨read, w₁, sampled, (Prod.mk.inj lifted).1⟩

/-- What was not prepared has no body. -/
theorem not_go_capture_of_unprepared {outcome : Except Fault (Option Prepared)}
    (prepared : go (prepareEntity e chunk) w = (outcome, w')) (nothing : ∀ p, outcome ≠ .ok (some p))
    (e' : Option (Ref Entity)) (replaced : Bool) (w'' : World) :
    go (capture limit chunk (some e)) w ≠ (.ok ⟨some b, e', replaced⟩, w'') := by
  intro captured
  cases outcome with
  | ok p =>
    cases p with
    | some p => exact nothing p rfl
    | none =>
      rw [go_capture_of_none prepared] at captured
      exact absurd (Prod.mk.inj captured).1 (by simp)
  | error f =>
    by_cases interrupts : f.interrupts = true
    · rw [capture, go_bind, go_attempt, prepared] at captured
      dsimp only at captured
      rw [if_pos interrupts] at captured
      exact absurd (Prod.mk.inj captured).1 (by simp)
    · rw [go_capture_of_error prepared (Bool.eq_false_iff.2 interrupts)] at captured
      exact absurd (Prod.mk.inj captured).1 (by simp)

/-- A captured body was read from what was prepared. -/
theorem readBody_of_capture {p : Prepared} {w₁ w'' : World} {body : Option CapturedBody}
    {e' : Option (Ref Entity)} {replaced : Bool}
    (prepared : go (prepareEntity e chunk) w = (.ok (some p), w₁))
    (captured : go (capture limit chunk (some e)) w = (.ok ⟨body, e', replaced⟩, w'')) :
    go (readBody limit p) w₁ = (.ok body, w'') ∧ replaced = p.replaced := by
  rw [capture, go_bind, go_attempt, prepared] at captured
  dsimp only at captured
  obtain ⟨found, w₂, read, made⟩ := exists_of_go_bind captured
  obtain ⟨same, rfl⟩ := Prod.mk.inj made
  obtain ⟨rfl, -, rfl⟩ := CaptureResult.mk.inj (Except.ok.inj same)
  exact ⟨read, rfl⟩

/-! ## Where a body comes from -/

/-- A read-once entity that is not replaced has a body exactly if it is resumed. -/
theorem go_capture_keeping_iff (once : w.ReadOnce e) :
    (∃ e' w', go (capture limit chunk (some e)) w = (.ok ⟨some b, e', false⟩, w')) ↔
      w.Resumes limit chunk e b := by
  constructor
  · rintro ⟨e', w', captured⟩
    rcases go_prepareEntity_cases once chunk with
      ⟨outcome, w₁, prepared, nothing⟩ | ⟨v, w₁, fails⟩ | ⟨v, data, -, e'', w₁, -, prepared, -⟩
    · exact absurd captured (not_go_capture_of_unprepared prepared nothing e' false w')
    · obtain ⟨found, -⟩ := readBody_of_capture (go_prepareEntity_of_fails once fails) captured
      obtain ⟨read, w₂, sampled, made⟩ := exists_sample_of_readBody found
      exact ⟨v, w₁, fails, read, w₂, sampled, made⟩
    · exact Bool.noConfusion (readBody_of_capture prepared captured).2
  · rintro ⟨v, w₁, fails, read, w₂, sampled, made⟩
    exact ⟨_, w₂, go_capture_of_prepared (go_prepareEntity_of_fails once fails)
      (go_readBody_of_sample sampled made)⟩

/-- If the entity is replaced, everything was buffered, and the text begins with the first byte. -/
theorem text_of_go_capture (once : w.ReadOnce e) (pos : 0 < limit) {e' : Option (Ref Entity)}
    (captured : go (capture limit chunk (some e)) w = (.ok ⟨some b, e', true⟩, w')) :
    ∃ data w₁ cut, go (bufferContent e chunk) (w.ready e) = (.ok (data, none), w₁) ∧
      b.text = capturedText (data.take limit.toNat) cut := by
  rcases go_prepareEntity_cases once chunk with
    ⟨outcome, w₁, prepared, nothing⟩ | ⟨v, w₁, fails⟩ |
      ⟨v, data, w₁, e'', w₂, buffered, prepared, type, encoding, held⟩
  · exact absurd captured (not_go_capture_of_unprepared prepared nothing e' true w')
  · exact Bool.noConfusion
      (readBody_of_capture (go_prepareEntity_of_fails once fails) captured).2
  · obtain ⟨found, -⟩ := readBody_of_capture prepared captured
    obtain ⟨read, w₃, sampled, made⟩ := exists_sample_of_readBody found
    obtain ⟨r, w₄, opened, serves⟩ := (offers_stored held).opens w₂ .refl
    obtain ⟨w₅, bounded, -⟩ := go_bounded_close (serves.mono (by decide)) pos
    have through : go (sample limit e'') w₂ =
        (.ok ⟨data.take limit.toNat, decide (limit.toNat < data.length)⟩, w₅) := by
      rw [sample, closing, go_bind_of_ok opened]
      exact bounded
    obtain rfl := Except.ok.inj (Prod.mk.inj (sampled.symm.trans through)).1
    obtain ⟨-, cut, text⟩ := text_of_capturedBody made
    exact ⟨data, w₁, cut, buffered, text⟩

/-! ## Entities that do not open again -/

/-- An entity that cannot be opened after it has failed is not resumed. -/
theorem not_resumes_of_shut
    (shut : ∀ v w', w.FailsPartWay chunk e v w' → ∃ f w'', go (openContent e) w' = (.error f, w'')) :
    ¬ w.Resumes limit chunk e b := by
  rintro ⟨v, w₁, fails, read, w₂, sampled, -⟩
  obtain ⟨f, w₃, refused⟩ := shut v w₁ fails
  rw [sample, closing, go_bind_of_error refused] at sampled
  exact absurd (Prod.mk.inj sampled).1 (by simp)

/-- Buffering marks a read-once entity as opened. -/
theorem get_bufferContent (hx : w.entities.get e = x) (own : x.isScripted = false) (chunk : Int) :
    (go (bufferContent e chunk) w).2.entities.get e = x.afterOpening := by
  have after := get_openContent hx own
  rw [bufferContent, go_bind, go_observe]
  cases opened : go (openContent e) w with
  | mk outcome w₁ =>
    rw [opened] at after
    cases outcome with
    | error f => exact after
    | ok r =>
      refine (congrArg (fun entities => entities.get e) (Drawn.entities ?_)).trans after
      -- what is left is to read the stream and to close it
      refine (drawn_drainStream r chunk).bind (fun d => ?_) w₁
      obtain ⟨data, fault⟩ := d
      refine (drawn_closeStream r).observe.bind fun outcome => ?_
      cases outcome <;> exact keeps_pure _

/-- A stream that was handed out once is not handed out again. -/
theorem not_resumes_once {stream : Ref Stream} {consumed : Bool} {length type encoding : Value}
    (hx : w.entities.get e = .once stream consumed length type encoding) :
    ¬ w.Resumes limit chunk e b := by
  refine not_resumes_of_shut ?_
  rintro v w' ⟨-, -, data, f, w₁, buffered, -, rfl⟩
  have marked := get_bufferContent hx rfl chunk
  rw [ready_eq hx rfl] at buffered
  rw [buffered] at marked
  exact ⟨_, _, go_openContent_consumed (w := w₁.say _) marked⟩

theorem go_openContent_streamConsumed {p : Ref Response} {type encoding : Value}
    (hx : w.entities.get e = .responseBody p type encoding)
    (unread : (w.responses.get p).content = .unread) (consumed : (w.responses.get p).consumed = true) :
    go (openContent e) w = (.error (.misuse .streamConsumed ""), w) := by
  rw [go_openContent_responseBody hx, openResponse, go_bind, go_view]
  dsimp only
  rw [unread]
  dsimp only
  rw [consumed, if_pos rfl]
  rfl

/-- A response that was consumed is not opened at all. -/
theorem not_resumes_consumed {p : Ref Response} {type encoding : Value}
    (hx : w.entities.get e = .responseBody p type encoding)
    (unread : (w.responses.get p).content = .unread) (consumed : (w.responses.get p).consumed = true) :
    ¬ w.Resumes limit chunk e b := by
  refine not_resumes_of_shut ?_
  rintro v w' ⟨-, -, data, f, w₁, buffered, -, rfl⟩
  have refused := go_openContent_streamConsumed hx unread consumed
  rw [ready_eq hx rfl, bufferContent, go_bind, go_observe, refused] at buffered
  obtain ⟨-, rfl⟩ := Prod.mk.inj buffered
  exact ⟨_, _, go_openContent_streamConsumed (w := w.say _) hx unread consumed⟩

/-! ## Entities over a spring -/

/-- What a spring gives after a fault, up to the limit. -/
theorem go_sample_of_fails (hx : w.entities.get e = x) (draws : x.DrawsFrom k)
    (holds : w.Holds k s) (more : ¬ k.Ended s) (pos : 0 < limit)
    (within : 0 < chunk ∧ chunk ≤ Value.maxCount) (fails : w.FailsPartWay chunk e v w') :
    (∃ f, (k.drain s).fault = some f ∧ f.interrupts = false) ∧
      ∃ w₂, go (sample limit e) w' = ((k.skim limit (k.drain s).rest).upTo limit, w₂) := by
  obtain ⟨-, -, data, f, w₁, buffered, contained, rfl⟩ := fails
  rw [ready_eq hx draws.own] at buffered
  obtain ⟨w₂, drained, left, same⟩ := go_bufferContent_of_draws hx draws holds more within
  obtain ⟨outcome, rfl⟩ := Prod.mk.inj (buffered.symm.trans drained)
  obtain ⟨-, fault⟩ := Prod.mk.inj (Except.ok.inj outcome)
  have failed : (k.drain s).fault ≠ none := by
    rw [← fault]
    exact Option.some_ne_none f
  obtain ⟨w₃, through, -⟩ := go_closing_of_draws (w := w₁.say (keptLine data f)) same draws
    (left.of_same rfl rfl rfl) (Spring.not_ended_of_fault failed) pos
  exact ⟨⟨f, fault.symm, contained⟩, w₃, through⟩

/-- The body of an entity that is resumed has the text of what its spring gives after the fault. -/
theorem text_of_resumes (hx : w.entities.get e = x) (draws : x.DrawsFrom k)
    (holds : w.Holds k s) (more : ¬ k.Ended s) (pos : 0 < limit)
    (within : 0 < chunk ∧ chunk ≤ Value.maxCount) (resumes : w.Resumes limit chunk e b) :
    w.isRead x = true ∧ k.Resumes limit s ∧ ∃ cut,
      b.text = capturedText ((k.skim limit (k.drain s).rest).data.take limit.toNat) cut := by
  obtain ⟨v, w₁, fails, read, w₂, sampled, made⟩ := resumes
  obtain ⟨fault, w₃, through⟩ := go_sample_of_fails hx draws holds more pos within fails
  obtain ⟨filled, cut, text⟩ := text_of_capturedBody made
  have given := (Prod.mk.inj (sampled.symm.trans through)).1
  have length : w.isRead x = true := by
    obtain ⟨known, filled, -⟩ := fails
    rw [go_contentLength hx draws.own] at known
    rw [isRead, show w.lengthOf x = .ok v from known]
    exact congrArg (!·) filled
  set d := k.skim limit (k.drain s).rest with hd
  rw [Drained.upTo] at given
  cases ended : d.fault with
  | some f =>
    rw [ended] at given
    exact absurd given (by simp)
  | none =>
    rw [ended] at given
    obtain rfl := Except.ok.inj given
    refine ⟨length, ⟨fault, ended, fun none => filled ?_⟩, cut, text⟩
    show d.data.take limit.toNat = []
    rw [none, List.take_nil]

/-- An entity is resumed exactly if it is read at all and its spring goes on after a fault. -/
theorem exists_resumes_iff (hx : w.entities.get e = x) (draws : x.DrawsFrom k)
    (holds : w.Holds k s) (more : ¬ k.Ended s) (pos : 0 < limit)
    (within : 0 < chunk ∧ chunk ≤ Value.maxCount) :
    (∃ b, w.Resumes limit chunk e b) ↔ w.isRead x = true ∧ k.Resumes limit s := by
  constructor
  · rintro ⟨b, resumes⟩
    obtain ⟨read, goesOn, -⟩ := text_of_resumes hx draws holds more pos within resumes
    exact ⟨read, goesOn⟩
  · rintro ⟨read, ⟨f, fault, contained⟩, whole, given⟩
    obtain ⟨d, known, filled⟩ := exists_length draws read
    obtain ⟨w₁, drained, -, -⟩ := go_bufferContent_of_draws hx draws holds more within
    rw [fault] at drained
    have fails : w.FailsPartWay chunk e (.int d) (w₁.say (keptLine (k.drain s).data f)) := by
      refine ⟨?_, filled_of_integer? rfl filled, _, f, w₁, ?_, contained, rfl⟩
      · rw [go_contentLength hx draws.own, known]
      · rw [ready_eq hx draws.own]
        exact drained
    obtain ⟨-, w₂, through⟩ := go_sample_of_fails hx draws holds more pos within fails
    rw [Drained.upTo, whole] at through
    have integer : (Value.int d).integer? = some d := rfl
    obtain ⟨b, made, -⟩ := capturedBody_of_ne_nil integer pos true rfl given
    exact ⟨b, _, _, fails, _, w₂, through, made⟩

/-! ## The whole -/

/-- A read-once entity that is not replaced has a body exactly if it fails and is resumed, and
otherwise a text begins with the first byte of what was buffered to the end.  An entity over a stream
of its own and a response that was consumed are never resumed; a file, an iterator and a response
are, as long as there is room for a chunk, if they are read at all and go on after the fault, and the
text is that of what came after it. -/
theorem capture_keeping_iff (once : w.ReadOnce e) (pos : 0 < limit) (step : 0 < chunk) :
    (∀ b, (∃ e' w', go (capture limit chunk (some e)) w = (.ok ⟨some b, e', false⟩, w')) ↔
        w.Resumes limit chunk e b) ∧
    (∀ b e' w', go (capture limit chunk (some e)) w = (.ok ⟨some b, e', true⟩, w') →
      ∃ data w₁ cut, go (bufferContent e chunk) (w.ready e) = (.ok (data, none), w₁) ∧
        b.text = capturedText (data.take limit.toNat) cut) ∧
    (∀ stream consumed length type encoding,
      w.entities.get e = .once stream consumed length type encoding →
        ∀ b, ¬ w.Resumes limit chunk e b) ∧
    (∀ p type encoding, w.entities.get e = .responseBody p type encoding →
      (w.responses.get p).content = .unread → (w.responses.get p).consumed = true →
        ∀ b, ¬ w.Resumes limit chunk e b) ∧
    ∀ (k : Spring) (s : k.State), (w.entities.get e).DrawsFrom k → w.Holds k s → ¬ k.Ended s →
      chunk ≤ Value.maxCount →
      ((∃ b, w.Resumes limit chunk e b) ↔
        w.isRead (w.entities.get e) = true ∧ k.Resumes limit s) ∧
      ∀ b, w.Resumes limit chunk e b → ∃ cut,
        b.text = capturedText ((k.skim limit (k.drain s).rest).data.take limit.toNat) cut := by
  refine ⟨fun b => go_capture_keeping_iff once, fun b e' w' => text_of_go_capture once pos,
    fun _ _ _ _ _ hx b => not_resumes_once hx,
    fun _ _ _ hx unread consumed b => not_resumes_consumed hx unread consumed, ?_⟩
  intro k s draws holds more room
  refine ⟨exists_resumes_iff rfl draws holds more pos ⟨step, room⟩, fun b resumes => ?_⟩
  exact (text_of_resumes rfl draws holds more pos ⟨step, room⟩ resumes).2.2

/-- The entity of a response whose raw stream is torn. -/
def tornEntity (is : List Item) : World :=
  { tornDownload is with entities := Store.empty.set ⟨0⟩ (.responseBody ⟨0⟩ .null .null) }

theorem readOnce_tornEntity (is : List Item) : (tornEntity is).ReadOnce ⟨0⟩ := by
  have hx : (tornEntity is).entities.get ⟨0⟩ = .responseBody ⟨0⟩ .null .null := rfl
  intro w' looks
  rw [eq_of_looks hx rfl looks, go_repeatable hx rfl]
  exact ⟨_, rfl, rfl⟩

theorem holds_tornEntity (is : List Item) :
    (tornEntity is).Holds scriptedSpring (scriptedState (torn is) [] .live) :=
  ⟨rfl, rfl, rfl, rfl, Bool.noConfusion, fun live => nomatch live⟩

theorem drawsFrom_tornEntity (is : List Item) :
    ((tornEntity is).entities.get ⟨0⟩).DrawsFrom scriptedSpring :=
  .raw ⟨0⟩ 0

theorem isRead_tornEntity (is : List Item) :
    (tornEntity is).isRead ((tornEntity is).entities.get ⟨0⟩) = true := by
  show isFilledLength (responseLength (download.responses.get ⟨0⟩) .null) = true
  decide +kernel

/-- What three bytes after the fault give to the second reading. -/
theorem skim_torn (calls : List Call) :
    ∃ rest, scriptedSpring.skim 4096
      (scriptedState [.ok (.bytes [100, 101, 102])] calls .broken) =
        ⟨[100, 101, 102], none, rest⟩ := by
  obtain ⟨later, piece⟩ := gather_scripted_of_piece (show some 4097 ≠ some 0 by simp)
    (show [100, 101, 102] ≠ [] by simp) [] calls
  obtain ⟨rest, ending⟩ := gather_scripted_of_end (show some 4094 ≠ some 0 by simp) later
  exact ⟨rest, piece.trans (congrArg (Drained.after [100, 101, 102]) ending)⟩

/-- A response that has nothing more to give after the fault has no body. -/
theorem capture_keeping_iff_drained :
    ¬ ∃ b e' w', go (capture 4096 8192 (some ⟨0⟩)) (tornEntity []) =
      (.ok ⟨some b, e', false⟩, w') := by
  rintro ⟨b, e', w', captured⟩
  obtain ⟨bodies, -, -, -, springs⟩ := capture_keeping_iff (readOnce_tornEntity [])
    (show (0 : Int) < 4096 by decide) (show (0 : Int) < 8192 by decide)
  have resumes := (bodies b).1 ⟨e', w', captured⟩
  obtain ⟨-, -, -, filled⟩ := (springs scriptedSpring _ (drawsFrom_tornEntity [])
    (holds_tornEntity []) nofun (by decide)).1.1 ⟨b, resumes⟩
  obtain ⟨calls, drained⟩ := drain_torn []
  obtain ⟨rest, skimmed⟩ := gather_scripted_of_end (show some 4097 ≠ some 0 by simp) calls
  rw [drained] at filled
  exact filled (congrArg Drained.data skimmed)

/-- A response that goes on after the fault has a body that begins there. -/
theorem captures_from_fault :
    (tornEntity [.ok (.bytes [100, 101, 102])]).ReadOnce ⟨0⟩ ∧
      ∃ b e' w', go (capture 4096 8192 (some ⟨0⟩)) (tornEntity [.ok (.bytes [100, 101, 102])]) =
          (.ok ⟨some b, e', false⟩, w') ∧
        ∃ cut, b.text = capturedText [100, 101, 102] cut := by
  set w := tornEntity [.ok (.bytes [100, 101, 102])]
  have once : w.ReadOnce ⟨0⟩ := readOnce_tornEntity _
  have hx : w.entities.get ⟨0⟩ = .responseBody ⟨0⟩ .null .null := rfl
  have draws : (Entity.responseBody ⟨0⟩ .null .null).DrawsFrom scriptedSpring := .raw ⟨0⟩ 0
  have holds : w.Holds scriptedSpring _ := holds_tornEntity _
  obtain ⟨first, drained⟩ := drain_torn [.ok (.bytes [100, 101, 102])]
  obtain ⟨rest, skimmed⟩ := skim_torn first
  have goesOn : scriptedSpring.Resumes 4096
      (scriptedState (torn [.ok (.bytes [100, 101, 102])]) [] .live) := by
    rw [Spring.Resumes, drained, skimmed]
    exact ⟨⟨lapse, rfl, rfl⟩, rfl, by simp⟩
  obtain ⟨b, resumes⟩ := (exists_resumes_iff hx draws holds nofun
    (show (0 : Int) < 4096 by decide) bufferChunkSize_within).2
      ⟨isRead_tornEntity _, goesOn⟩
  obtain ⟨e', w', captured⟩ := (go_capture_keeping_iff once).2 resumes
  obtain ⟨-, -, cut, text⟩ := text_of_resumes hx draws holds nofun (by decide) (by decide) resumes
  rw [drained, skimmed] at text
  exact ⟨once, b, e', w', captured, cut, text⟩

end Act
end HttpTap
