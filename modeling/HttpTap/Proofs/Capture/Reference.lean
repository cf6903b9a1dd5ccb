import HttpTap.Proofs.Capture.Buffering
import HttpTap.Proofs.Entity.StandIn
import HttpTap.Proofs.Text.Decoding

/-!
# What a capture comes to

Three lengths meet in a capture: the one that the entity declares, the one observed while it was
buffered, and the number of bytes under the limit.  `CapturedBody.Describes` says how a captured
body follows from the limit, the declared length, the flag of the entity and the bytes `c` that it
offers, and `CaptureResult.Reports` says the same of the outcome as a whole.

The way the stream was split into reads is not among the things that the outcome depends on.
-/

namespace HttpTap

/-- The entity can be opened in every world that its use leads to, and each time its stream has
the whole of `c`, read in pieces of any size or at once. -/
def World.Replays (w : World) (e : Ref Entity) (c : Bytes) : Prop :=
  ∀ w', World.Uses e w w' → ∃ r w'', Act.go (Act.openContent e) w' = (.ok r, w'') ∧
    w''.Serves largestSize r c ∧ (Act.go (Act.readStream r (-1)) w'').1 = .ok (.bytes c)

/-- The body that is captured from an entity that declares `d` and offers `c`. -/
structure CapturedBody.Describes (b : CapturedBody) (limit d : Int) (rep : Bool) (c : Bytes) :
    Prop where
  truncated : b.truncated = true ↔ limit < c.length ∨ limit < d
  text : b.text =
    decodeBody (c.take limit.toNat) b.truncated ++ if b.truncated then truncationMarker else ""
  text_ne : b.text ≠ ""
  size : b.size.integer? =
    some (if 0 ≤ d then d else if rep then min (c.length : Int) limit else c.length)

/-- The outcome of capturing an entity `e` that declares `d` and offers `c`. -/
structure CaptureResult.Reports (result : CaptureResult) (w w' : World) (e : Ref Entity)
    (limit d : Int) (rep : Bool) (c : Bytes) : Prop where
  /-- Declared to be empty, the entity is asked for its length and for nothing else. -/
  unopened : d = 0 → result = ⟨none, some e, false⟩ ∧ w' = (Act.go (Act.contentLength e) w).2
  nothing : c = [] → result.body = none
  body : d ≠ 0 → c ≠ [] → ∃ b, result.body = some b ∧ b.Describes limit d rep c
  replaced : result.replaced = true ↔ rep = false ∧ d ≠ 0
  copy : result.replaced = true →
    ∃ e', result.entity = some e' ∧ ¬ w.entities.Has e' ∧ w'.Replays e' c
  same : result.replaced = false → result.entity = some e

/-! ## The body -/

/-- The bytes under the limit are none only if there are none at all. -/
theorem take_ne_nil {limit : Int} (pos : 0 < limit) {c : Bytes} (h : c ≠ []) :
    c.take limit.toNat ≠ [] := by
  intro none
  rcases List.take_eq_nil_iff.1 none with h0 | h0
  · omega
  · exact h h0

section Body

variable {declared : Value} {limit d : Int} {observed : Option Nat} {c : Bytes}

theorem capturedBody_of_nil :
    capturedBody limit declared observed ⟨[].take limit.toNat, false⟩ = .ok none := by
  rw [List.take_nil]
  rfl

theorem bodySize_of_integer? (hd : declared.integer? = some d) (observed : Option Nat)
    (kept : Nat) :
    ∃ size, bodySize declared observed kept = .ok size ∧
      size.integer? = some (if 0 ≤ d then d else (observed.getD kept : Int)) := by
  rw [bodySize, Value.reaches_of_integer? hd]
  by_cases known : 0 ≤ d
  · refine ⟨declared, ?_, by rw [hd, if_pos known]⟩
    rw [decide_eq_true known]
    rfl
  · refine ⟨.int (observed.getD kept), ?_, by rw [if_neg known]; rfl⟩
    rw [decide_eq_false known]
    rfl

/-- A body from its parts: whether it was cut, and its size. -/
theorem capturedBody_of_parts {read : BoundedRead} {cut : Bool} {size : Value}
    (filled : read.data ≠ [])
    (tested : (if read.more then pure true else declared.exceeds limit) = .ok cut)
    (sized : bodySize declared observed read.data.length = .ok size) :
    capturedBody limit declared observed read =
      .ok (some ⟨capturedText read.data cut, size, cut⟩) := by
  have empty : ¬ read.data.isEmpty = true := by
    rw [List.isEmpty_iff]
    exact filled
  rw [capturedBody]
  dsimp only
  rw [if_neg empty]
  cases more : read.more with
  | true =>
    rw [more] at tested
    obtain rfl : true = cut := Except.ok.inj tested
    rw [if_pos rfl, sized]
    rfl
  | false =>
    rw [more] at tested
    have exceeds : declared.exceeds limit = .ok cut := tested
    rw [if_neg Bool.false_ne_true, exceeds, sized]
    rfl

/-- What a body says follows from the bytes, the limit and the lengths. -/
theorem capturedBody_of_ne_nil (hd : declared.integer? = some d) (pos : 0 < limit) (rep : Bool)
    (seen : observed = if rep then none else some c.length) (h : c ≠ []) :
    ∃ b, capturedBody limit declared observed
        ⟨c.take limit.toNat, decide (limit.toNat < c.length)⟩ = .ok (some b) ∧
      b.Describes limit d rep c := by
  obtain ⟨size, sized, shown⟩ := bodySize_of_integer? hd observed (c.take limit.toNat).length
  have bytes : c.take limit.toNat ≠ [] := take_ne_nil pos h
  have kept : ((c.take limit.toNat).length : Int) = min (c.length : Int) limit := by
    rw [List.length_take]
    omega
  have cut : ∃ cut : Bool, (if decide (limit.toNat < c.length) then pure true
      else declared.exceeds limit) = Except.ok (ε := Fault) cut ∧
      (cut = true ↔ limit < c.length ∨ limit < d) := by
    by_cases longer : limit.toNat < c.length
    · exact ⟨true, by rw [decide_eq_true longer]; rfl, by simp; omega⟩
    · refine ⟨decide (limit < d), ?_, ?_⟩
      · rw [decide_eq_false longer]
        exact Value.exceeds_of_integer? hd limit
      · rw [decide_eq_true_iff]
        omega
  obtain ⟨cut, tested, cut_iff⟩ := cut
  refine ⟨⟨capturedText (c.take limit.toNat) cut, size, cut⟩,
    capturedBody_of_parts bytes tested sized, cut_iff, ?_, ?_, ?_⟩
  · exact capturedText_eq _ _
  · exact capturedText_ne_empty bytes cut
  · rw [shown, seen]
    cases rep with
    | true =>
      show some (if 0 ≤ d then d else ((c.take limit.toNat).length : Int)) = _
      rw [kept]
      rfl
    | false => rfl

/-- There is a body if and only if there are bytes. -/
theorem exists_capturedBody (hd : declared.integer? = some d) (pos : 0 < limit) (rep : Bool)
    (seen : observed = if rep then none else some c.length) :
    ∃ body, capturedBody limit declared observed
        ⟨c.take limit.toNat, decide (limit.toNat < c.length)⟩ = .ok body ∧
      (c = [] → body = none) ∧ (c ≠ [] → ∃ b, body = some b ∧ b.Describes limit d rep c) := by
  by_cases empty : c = []
  · subst empty
    exact ⟨none, capturedBody_of_nil, fun _ => rfl, fun filled => absurd rfl filled⟩
  · obtain ⟨b, made, describes⟩ := capturedBody_of_ne_nil hd pos rep seen empty
    exact ⟨some b, made, fun none => absurd none empty, fun _ => ⟨b, rfl, describes⟩⟩

end Body

/-! ## The outcome -/

namespace World

open Act

variable {w w' : World} {e : Ref Entity} {c : Bytes}

/-- Bytes that are opened anew each time are replayed. -/
theorem replays_of_openSource
    (opens : ∀ w', Uses e w w' → go (openContent e) w' = go (openSource (.ofBytes c)) w') :
    w.Replays e c := by
  intro w' uses
  refine ⟨w'.streams.next, (go (openSource (.ofBytes c)) w').2, ?_, ?_, ?_⟩
  · rw [opens w' uses]
    rfl
  · exact serves_openSource w' (Source.delivers_ofBytes c) (Source.closesCleanly_ofBytes c)
  · rw [go_readStream]
    exact of_openSource (P := fun reader s => (reader.read (-1) s).1 = .ok (.bytes c)) w'
      (Source.read_all_ofBytes c)

/-- A copy replays what it holds. -/
theorem NewCopy.replays (h : w.NewCopy w' e c) : w'.Replays e c := by
  refine replays_of_openSource fun w'' uses => ?_
  obtain ⟨type, encoding, held⟩ := (h.later uses).holds
  exact go_openContent_stored held

end World

namespace Act

open World

variable {w w' : World} {e : Ref Entity} {limit chunk d : Int} {rep : Bool} {c : Bytes}

theorem go_capture_of_none (prepared : go (prepareEntity e chunk) w = (.ok none, w')) :
    go (capture limit chunk (some e)) w = (.ok ⟨none, some e, false⟩, w') := by
  rw [capture, go_bind, go_attempt, prepared]
  rfl

/-- An entity that fails while it is prepared comes back in the state that it was left in. -/
theorem go_capture_of_error {f : Fault} (failed : go (prepareEntity e chunk) w = (.error f, w'))
    (contained : f.interrupts = false) :
    go (capture limit chunk (some e)) w = (.ok ⟨none, some e, false⟩,
      w'.say (.contained captureChannel "Failed to prepare entity for capture" f)) := by
  rw [capture, go_bind, go_attempt_of_error failed contained]
  rfl

theorem go_capture_of_prepared {p : Prepared} {body : Option CapturedBody} {w'' : World}
    (prepared : go (prepareEntity e chunk) w = (.ok (some p), w'))
    (read : go (readBody limit p) w' = (.ok body, w'')) :
    go (capture limit chunk (some e)) w = (.ok ⟨body, some p.entity, p.replaced⟩, w'') := by
  rw [capture, go_bind, go_attempt, prepared]
  dsimp only
  rw [go_bind_of_ok read]
  rfl

/-- What is read from an entity that offers `c`, once its length is known. -/
theorem go_readBody_of_offers {p : Prepared} (h : w.Offers readChunkSize p.entity true c)
    (hd : p.declared.integer? = some d) (pos : 0 < limit) (rep : Bool)
    (seen : p.observed = if rep then none else some c.length) :
    ∃ body w', go (readBody limit p) w = (.ok body, w') ∧ (c = [] → body = none) ∧
      (c ≠ [] → ∃ b, body = some b ∧ b.Describes limit d rep c) := by
  obtain ⟨r, w₁, opened, serves⟩ := h.opens w .refl
  obtain ⟨body, made, nothing, found⟩ := exists_capturedBody hd pos rep seen
  exact ⟨body, _, go_readBody opened serves pos made, nothing, found⟩

section Outcome

variable {declared : Value} {w₁ : World}

/-- An entity that declares to be empty comes back as it is. -/
theorem go_capture_of_zero (length : go (contentLength e) w = (.ok declared, w₁))
    (hd : declared.integer? = some 0) :
    go (capture limit chunk (some e)) w = (.ok ⟨none, some e, false⟩, w₁) := by
  refine go_capture_of_none (go_prepareEntity_of_zero length ?_)
  rw [Value.equalsInt_of_integer? hd]
  rfl

theorem filled_of_integer? (hd : declared.integer? = some d) (filled : d ≠ 0) :
    declared.equalsInt 0 = false := by
  rw [Value.equalsInt_of_integer? hd]
  exact beq_eq_false_iff_ne.2 filled

/-- An entity that opens again and again is read and comes back. -/
theorem go_capture_of_repeatable (chunk : Int)
    (length : go (contentLength e) w = (.ok declared, w₁)) (hd : declared.integer? = some d)
    (filled : d ≠ 0) (pos : 0 < limit) (h : w₁.Offers readChunkSize e true c) :
    ∃ body w', go (capture limit chunk (some e)) w = (.ok ⟨body, some e, false⟩, w') ∧
      (c = [] → body = none) ∧ (c ≠ [] → ∃ b, body = some b ∧ b.Describes limit d true c) := by
  obtain ⟨w₂, prepared, looks⟩ := go_prepareEntity_of_repeatable chunk length
    (filled_of_integer? hd filled) h.toSteady
  obtain ⟨body, w', read, nothing, found⟩ := go_readBody_of_offers
    (p := ⟨e, declared, none, false⟩) (h.later looks) hd pos true rfl
  exact ⟨body, w', go_capture_of_prepared prepared read, nothing, found⟩

/-- An entity that opens once is buffered, and the copy is read and handed back. -/
theorem go_capture_of_once (length : go (contentLength e) w = (.ok declared, w₁))
    (hd : declared.integer? = some d) (filled : d ≠ 0) (pos : 0 < limit) (step : 0 < chunk)
    (h : w₁.Offers chunk e false c) :
    ∃ body e' w', go (capture limit chunk (some e)) w = (.ok ⟨body, some e', true⟩, w') ∧
      w.NewCopy w' e' c ∧ (c = [] → body = none) ∧
      (c ≠ [] → ∃ b, body = some b ∧ b.Describes limit d false c) := by
  obtain ⟨e', w₂, prepared, copy⟩ :=
    go_prepareEntity_of_once length (filled_of_integer? hd filled) h step
  obtain ⟨body, w', read, nothing, found⟩ := go_readBody_of_offers
    (p := ⟨e', declared, some c.length, true⟩) copy.offers hd pos false rfl
  have looked : w.Consulted w₁ := (keeps_contentLength e).of_go length
  have uses : Uses e' w₂ w' :=
    (uses_readBody limit ⟨e', declared, some c.length, true⟩).of_go read
  exact ⟨body, e', w', go_capture_of_prepared prepared read,
    (copy.earlier looked.entities_le).later uses, nothing, found⟩

end Outcome

/-- The outcome of a capture is settled by the limit, the declared length, the flag and the bytes
that the entity offers to reads of the sizes that a capture asks for. -/
theorem capture_reports (pos : 0 < limit) (step : 0 < chunk) (declares : w.Declares e d)
    (h : w.Offers (max chunk readChunkSize) e rep c) :
    ∃ result w', go (capture limit chunk (some e)) w = (.ok result, w') ∧
      result.Reports w w' e limit d rep c := by
  obtain ⟨declared, hv, hd⟩ := declares
  have length : go (contentLength e) w = (.ok declared, (go (contentLength e) w).2) :=
    Prod.ext hv rfl
  have offers := h.later (.single (.length w))
  by_cases zero : d = 0
  · -- nothing but the length is read
    subst zero
    exact ⟨_, _, go_capture_of_zero length hd, fun _ => ⟨rfl, rfl⟩, fun _ => rfl,
      fun some => absurd rfl some, by simp, fun replaced => absurd replaced (by simp), fun _ => rfl⟩
  · cases rep with
    | true =>
      obtain ⟨body, w', captured, nothing, found⟩ :=
        go_capture_of_repeatable chunk length hd zero pos (offers.mono (Int.le_max_right _ _))
      exact ⟨_, w', captured, fun none => absurd none zero, nothing, fun _ => found, by simp,
        fun replaced => absurd replaced (by simp), fun _ => rfl⟩
    | false =>
      obtain ⟨body, e', w', captured, copy, nothing, found⟩ :=
        go_capture_of_once length hd zero pos step (offers.mono (Int.le_max_left _ _))
      exact ⟨_, w', captured, fun none => absurd none zero, nothing, fun _ => found, by simp [zero],
        fun _ => ⟨e', rfl, copy.new, copy.replays⟩, fun same => absurd same (by simp)⟩

/-- A stand-in of unknown length that opens again and again, two bytes at a time. -/
def shortReads : EntityScript where
  name := "e"
  repeatable := .always (.bool true)
  length := .always (.int (-1))
  type := .always .null
  encoding := .always .null
  contents := [.ok (.standIn (.data [104, 195, 169, 108, 108, 111] (some 2) none) none true)]
  opened := 0

/-- Two bytes of six are kept; the second one is torn off and leaves no trace. -/
theorem capture_reports_shortReads :
    ∃ result w', go (capture 2 8192 (some ⟨0⟩))
        { World.empty with entities := Store.empty.set ⟨0⟩ (.scripted shortReads) } =
          (.ok result, w') ∧
      ∃ b, result.body = some b ∧ b.text = "h... (truncated)" ∧ b.size.integer? = some 2 ∧
        result.replaced = false := by
  set w : World := { World.empty with entities := Store.empty.set ⟨0⟩ (.scripted shortReads) }
  have declares : w.Declares ⟨0⟩ (-1) := declares_scripted (s := shortReads) rfl ⟨_, rfl, rfl⟩
  have offers : w.Offers 8192 ⟨0⟩ true [104, 195, 169, 108, 108, 111] :=
    offers_scripted (s := shortReads) rfl
      ⟨Readings.gives_always rfl, Readings.gives_always trivial, Readings.gives_always trivial⟩ rfl
      (fun name => (StandIn.delivers rfl rfl (by decide) 8192).embed Ground.embeds_standIn)
      fun name => (StandIn.closesCleanly rfl rfl).embed Ground.embeds_standIn
  have pos : (0 : Int) < 2 := by decide
  have step : (0 : Int) < 8192 := by decide
  obtain ⟨result, w', captured, reports⟩ := capture_reports pos step declares offers
  obtain ⟨b, found, describes⟩ := reports.body (by decide) (by decide)
  have cut : b.truncated = true := describes.truncated.2 (Or.inl (by decide))
  refine ⟨result, w', captured, b, found, ?_, describes.size, ?_⟩
  · rw [describes.text, cut]
    decide +kernel
  · refine Bool.eq_false_iff.2 fun replaced => ?_
    exact Bool.noConfusion (reports.replaced.1 replaced).1

end Act
end HttpTap
