import HttpTap.Proofs.Capture.BufferFirst
import HttpTap.Proofs.Capture.Calm
import HttpTap.Proofs.Text.Cutting
import HttpTap.Proofs.Value.Comparing

/-!
# Texts under a limit

What a capture keeps of an entity is the beginning of its bytes, and what it shows is the text of
that.  `capture_ofText` says what becomes of an entity that was made from a text: the text as a
whole if it fits, and else the longest beginning that does.

The bytes of other entities need not be a text.  All the same a greater limit never takes back what
a smaller one shows (`decodeBody_capture_mono`).  Two things might break that.  The last bytes under
the smaller limit might be shown in another way where they are not the last ones; but they are shown
as the end of whole data only if nothing is cut off.  And the greater limit might cut where the
smaller one does not.  That would need a declared length that exceeds the greater limit alone.
-/

namespace HttpTap

/-! ## Bodies under a limit -/

/-- The text of a body without the marker, which stands after it exactly if the body was cut. -/
def CapturedBody.Shows (b : CapturedBody) (text : String) : Prop :=
  b.text = text ++ if b.truncated then truncationMarker else ""

/-- What a capture of the bytes `c` comes to.  Where the declared length cannot be compared, it
comes to nothing. -/
def bodyUnder (limit : Int) (declared : Value) (observed : Option Nat) (c : Bytes) :
    Option CapturedBody :=
  match capturedBody limit declared observed
      ⟨c.take limit.toNat, decide (limit.toNat < c.length)⟩ with
  | .ok body => body
  | .error _ => none

/-- There are two bodies, and the second one shows as much as the first one or more; or there is
none. -/
def Widens : Option CapturedBody → Option CapturedBody → Prop
  | none, none => True
  | some b₁, some b₂ => ∃ t₁ t₂, b₁.Shows t₁ ∧ b₂.Shows t₂ ∧ t₁.toList <+: t₂.toList
  | _, _ => False

section Limits

variable {limit limit₁ limit₂ : Int} {declared : Value} {c : Bytes}

theorem bodyUnder_nil (limit : Int) (declared : Value) (observed : Option Nat) :
    bodyUnder limit declared observed [] = none := by
  have none : decide (limit.toNat < ([] : Bytes).length) = false := by simp
  rw [bodyUnder, none, capturedBody_of_nil]

/-- A length that cannot be compared makes no body. -/
theorem bodyUnder_of_error {f : Fault} (fails : ∀ k, declared.compareInt k = .error f)
    (limit : Int) (observed : Option Nat) (c : Bytes) :
    bodyUnder limit declared observed c = none := by
  have exceeds : declared.exceeds limit = .error f := by
    rw [Value.exceeds, fails]
    rfl
  have unsized : ∀ kept, bodySize declared observed kept = .error f := by
    intro kept
    rw [bodySize, Value.reaches, fails]
    rfl
  rw [bodyUnder, capturedBody, exceeds, unsized]
  by_cases empty : (c.take limit.toNat).isEmpty = true
  · rw [if_pos empty]
    rfl
  · rw [if_neg empty]
    by_cases longer : limit.toNat < c.length
    · rw [decide_eq_true longer]
      rfl
    · rw [decide_eq_false longer]
      rfl

/-- A length that can be compared makes a body of every byte string that is not empty. -/
theorem bodyUnder_of_ok (compares : ∀ k, ∃ order, declared.compareInt k = .ok order)
    (pos : 0 < limit) (filled : c ≠ []) (observed : Option Nat) :
    ∃ cut size, bodyUnder limit declared observed c =
        some ⟨capturedText (c.take limit.toNat) cut, size, cut⟩ ∧
      (cut = true ↔ limit.toNat < c.length ∨ declared.exceeds limit = .ok true) := by
  obtain ⟨size, sized⟩ :
      ∃ size, bodySize declared observed (c.take limit.toNat).length = .ok size := by
    obtain ⟨order, zero⟩ := compares 0
    rw [bodySize, Value.reaches, zero]
    by_cases known : (order == some .gt || order == some .eq) = true
    · refine ⟨declared, ?_⟩
      simp only [bind, Except.bind, known]
      rfl
    · refine ⟨.int (observed.getD (c.take limit.toNat).length), ?_⟩
      simp only [bind, Except.bind, known]
      rfl
  obtain ⟨exceeding, exceeds⟩ : ∃ exceeding, declared.exceeds limit = .ok exceeding := by
    obtain ⟨order, compared⟩ := compares limit
    rw [Value.exceeds, compared]
    exact ⟨_, rfl⟩
  have bytes : c.take limit.toNat ≠ [] := take_ne_nil pos filled
  have made {cut : Bool} (tested : (if decide (limit.toNat < c.length) then pure true
      else declared.exceeds limit) = Except.ok (ε := Fault) cut) :
      bodyUnder limit declared observed c =
        some ⟨capturedText (c.take limit.toNat) cut, size, cut⟩ := by
    rw [bodyUnder, capturedBody_of_parts bytes tested sized]
  by_cases longer : limit.toNat < c.length
  · refine ⟨true, size, made ?_, by simp [longer]⟩
    rw [decide_eq_true longer]
    rfl
  · refine ⟨exceeding, size, made ?_, by simp [longer, exceeds]⟩
    rw [decide_eq_false longer]
    exact exceeds

theorem shows_capturedText (bs : Bytes) (size : Value) (cut : Bool) :
    CapturedBody.Shows ⟨capturedText bs cut, size, cut⟩ (decodeBody bs cut) :=
  capturedText_eq bs cut

/-- A length that is the right one. -/
theorem bodyUnder_of_length (pos : 0 < limit) (filled : c ≠ []) (observed : Option Nat) :
    bodyUnder limit (.int c.length) observed c =
      some ⟨capturedText (c.take limit.toNat) (decide (limit < c.length)), .int c.length,
        decide (limit < c.length)⟩ := by
  have bytes : c.take limit.toNat ≠ [] := take_ne_nil pos filled
  have cut : (decide (limit.toNat < c.length) || decide (limit < (c.length : Int))) =
      decide (limit < (c.length : Int)) := by
    by_cases longer : limit < c.length
    · simp [longer]
    · have all : ¬ limit.toNat < c.length := by omega
      simp [longer, all]
  rw [bodyUnder, capturedBody_int bytes]
  dsimp only
  rw [cut, if_pos (Int.natCast_nonneg _)]

/-- Under the greater limit as much is shown, or more. -/
theorem widens_bodyUnder (pos : 0 < limit₁) (le : limit₁ ≤ limit₂) (declared : Value)
    (observed : Option Nat) (c : Bytes) :
    Widens (bodyUnder limit₁ declared observed c) (bodyUnder limit₂ declared observed c) := by
  by_cases empty : c = []
  · subst empty
    rw [bodyUnder_nil, bodyUnder_nil]
    trivial
  rcases declared.compareInt_ok_or_error with compares | ⟨f, fails⟩
  · obtain ⟨cut₁, size₁, body₁, cut₁_iff⟩ := bodyUnder_of_ok compares pos empty observed
    obtain ⟨cut₂, size₂, body₂, cut₂_iff⟩ :=
      bodyUnder_of_ok compares (show 0 < limit₂ by omega) empty observed
    rw [body₁, body₂]
    refine ⟨_, _, shows_capturedText _ _ _, shows_capturedText _ _ _, ?_⟩
    rw [toList_decodeBody, toList_decodeBody]
    have earlier : limit₁.toNat ≤ limit₂.toNat := by omega
    cases cut₁ with
    | true =>
      have front := Text.Utf8.decode_take_mono earlier c
      cases cut₂ with
      | true => exact front
      | false => exact front.trans (Text.Utf8.decode_cut_le_whole _)
    | false =>
      -- nothing is cut off under the smaller limit, so nothing is under the greater one
      have uncut : ¬ (limit₁.toNat < c.length ∨ declared.exceeds limit₁ = .ok true) :=
        fun cut => Bool.noConfusion (cut₁_iff.2 cut)
      have uncut₂ : cut₂ = false := by
        refine Bool.eq_false_iff.2 fun cut => uncut ?_
        rcases cut₂_iff.1 cut with longer | exceeds
        · exact .inl (by omega)
        · exact .inr (Value.exceeds_of_le le exceeds)
      rw [uncut₂, List.take_of_length_le (by omega), List.take_of_length_le (by omega)]
  · rw [bodyUnder_of_error fails, bodyUnder_of_error fails]
    trivial

end Limits

/-! ## Texts under a limit -/

/-- What is captured of the text `s`: all of it if it fits, and else the longest beginning that
does, with the marker.  The size is that of the whole text. -/
structure TextUnder (limit : Int) (s : String) (body : Option CapturedBody) : Prop where
  nothing : s = "" → body = none
  whole : s ≠ "" → (Text.Utf8.encode s).length ≤ limit →
    body = some ⟨s, .int (Text.Utf8.encode s).length, false⟩
  torn : limit < (Text.Utf8.encode s).length → ∃ p, Text.LongestFit limit.toNat s p ∧
    body = some ⟨p ++ truncationMarker, .int (Text.Utf8.encode s).length, true⟩

theorem encode_ne_nil {s : String} (h : s ≠ "") : Text.Utf8.encode s ≠ [] := by
  intro none
  have back := decodeBody_encode s true
  rw [none] at back
  exact h back.symm

theorem textUnder_bodyUnder {s : String} {limit : Int} (filled : s ≠ "") (pos : 0 < limit) :
    TextUnder limit s
      (bodyUnder limit (.int (Text.Utf8.encode s).length) none (Text.Utf8.encode s)) := by
  rw [bodyUnder_of_length pos (encode_ne_nil filled)]
  refine ⟨fun empty => absurd empty filled, fun _ fits => ?_, fun longer => ?_⟩
  · have uncut : decide (limit < ((Text.Utf8.encode s).length : Int)) = false := by
      simpa using fits
    rw [uncut, List.take_of_length_le (by omega), capturedText_eq, decodeBody_encode]
    show some (CapturedBody.mk (s ++ "") _ _) = _
    rw [String.append_empty]
  · rw [decide_eq_true longer, capturedText_eq]
    exact ⟨_, longestFit_decodeBody _ _, rfl⟩

namespace Act

open World

variable {w w₁ : World} {e : Ref Entity} {limit chunk : Int} {rep : Bool} {declared : Value}
  {c : Bytes}

/-! ## Captures under a limit -/

/-- Reading comes to a body or to none: a length that cannot be compared is a fault that is
contained. -/
theorem go_readBody_under {p : Prepared} (h : w.Offers readChunkSize p.entity true c)
    (pos : 0 < limit) :
    ∃ w', go (readBody limit p) w = (.ok (bodyUnder limit p.declared p.observed c), w') := by
  obtain ⟨r, w₁, opened, serves⟩ := h.opens w .refl
  have contained := capturedBody_contained limit p.declared p.observed
    ⟨c.take limit.toNat, decide (limit.toNat < c.length)⟩
  rw [bodyUnder]
  cases made : capturedBody limit p.declared p.observed
      ⟨c.take limit.toNat, decide (limit.toNat < c.length)⟩ with
  | ok body => exact ⟨_, go_readBody opened serves pos made⟩
  | error f =>
    rw [made] at contained
    have read := go_closing_readBounded opened serves pos
    have failed := (go_bind_of_ok read fun read =>
      lift (capturedBody limit p.declared p.observed read)).trans (by rw [go_lift, made])
    rw [readBody, go_attempt_of_error failed contained]
    exact ⟨_, rfl⟩

/-- An entity that opens again and again comes back. -/
theorem go_capture_under_of_repeatable (chunk : Int)
    (length : go (contentLength e) w = (.ok declared, w₁))
    (filled : declared.equalsInt 0 = false) (h : w₁.Offers readChunkSize e true c)
    (pos : 0 < limit) :
    ∃ w', go (capture limit chunk (some e)) w =
      (.ok ⟨bodyUnder limit declared none c, some e, false⟩, w') := by
  obtain ⟨w₂, prepared, looks⟩ := go_prepareEntity_of_repeatable chunk length filled h.toSteady
  obtain ⟨w', read⟩ := go_readBody_under (p := ⟨e, declared, none, false⟩) (h.later looks) pos
  exact ⟨w', go_capture_of_prepared prepared read⟩

/-- In the place of an entity that opens once a copy comes back. -/
theorem go_capture_under_of_once (length : go (contentLength e) w = (.ok declared, w₁))
    (filled : declared.equalsInt 0 = false) (h : w₁.Offers chunk e false c) (pos : 0 < limit)
    (step : 0 < chunk) :
    ∃ e' w', go (capture limit chunk (some e)) w =
      (.ok ⟨bodyUnder limit declared (some c.length) c, some e', true⟩, w') := by
  obtain ⟨e', w₂, prepared, copy⟩ := go_prepareEntity_of_once length filled h step
  obtain ⟨w', read⟩ :=
    go_readBody_under (p := ⟨e', declared, some c.length, true⟩) copy.offers pos
  exact ⟨e', w', go_capture_of_prepared prepared read⟩

/-- Unless reading the length interrupts the program, every capture of an entity comes to a body or
to none, and a greater limit shows as much as a smaller one or more. -/
theorem exists_bodies (h : w.Offers (max chunk readChunkSize) e rep c) (step : 0 < chunk)
    (returns : ∀ f, (go (contentLength e) w).1 = .error f → f.interrupts = false) :
    ∃ body : Int → Option CapturedBody,
      (∀ limit₁ limit₂, 0 < limit₁ → limit₁ ≤ limit₂ → Widens (body limit₁) (body limit₂)) ∧
      ∀ limit, 0 < limit →
        ∃ result w', go (capture limit chunk (some e)) w = (.ok result, w') ∧
          result.body = body limit := by
  cases length : go (contentLength e) w with
  | mk answer w₁ =>
    cases answer with
    | error f =>
      have contained : f.interrupts = false := returns f (by rw [length])
      refine ⟨fun _ => none, fun _ _ _ _ => trivial, fun limit _ => ?_⟩
      have failed : go (prepareEntity e chunk) w = (.error f, w₁) := by
        rw [prepareEntity, go_bind_of_error length]
      exact ⟨_, _, go_capture_of_error failed contained, rfl⟩
    | ok declared =>
      have offers : w₁.Offers (max chunk readChunkSize) e rep c := by
        have look := h.later (.single (.length w))
        rwa [length] at look
      cases zero : declared.equalsInt 0 with
      | true =>
        refine ⟨fun _ => none, fun _ _ _ _ => trivial, fun limit _ => ?_⟩
        exact ⟨_, _, go_capture_of_none (go_prepareEntity_of_zero length zero), rfl⟩
      | false =>
        refine ⟨fun limit => bodyUnder limit declared (if rep then none else some c.length) c,
          fun _ _ pos le => widens_bodyUnder pos le _ _ _, fun limit pos => ?_⟩
        cases rep with
        | true =>
          obtain ⟨w', captured⟩ := go_capture_under_of_repeatable chunk length zero
            (offers.mono (Int.le_max_right _ _)) pos
          exact ⟨_, w', captured, rfl⟩
        | false =>
          obtain ⟨e', w', captured⟩ := go_capture_under_of_once length zero
            (offers.mono (Int.le_max_left _ _)) pos step
          exact ⟨_, w', captured, rfl⟩

/-! ## Entities that were made from a text -/

/-- Every beginning of the bytes of a text is read as the longest beginning of the text that fits
into it, and all of them are read as the text.  So the capture of a text keeps as many characters
of it as fit under the limit, and says how many bytes the whole text has. -/
theorem capture_ofText (s : String) :
    (∀ k, Text.LongestFit k s (decodeBody ((Text.Utf8.encode s).take k) true)) ∧
    (∀ cut, decodeBody (Text.Utf8.encode s) cut = s) ∧
    ∀ (w : World) (e : Ref Entity) (type : Value) (limit chunk : Int), 0 < limit →
      w.entities.get e = .ofText s type →
      ∃ body w', go (capture limit chunk (some e)) w = (.ok ⟨body, some e, false⟩, w') ∧
        TextUnder limit s body := by
  refine ⟨fun k => longestFit_decodeBody k s, decodeBody_encode s, ?_⟩
  intro w e type limit chunk pos hx
  have length : go (contentLength e) w = (.ok (.int (Text.Utf8.encode s).length), w) :=
    go_contentLength hx rfl
  by_cases empty : s = ""
  · subst empty
    refine ⟨none, w, go_capture_of_zero length rfl, fun _ => rfl, fun some => ?_, fun longer => ?_⟩
    · exact absurd rfl some
    · exact absurd longer (by simp [Text.Utf8.encode]; omega)
  · have some_bytes := List.length_pos_iff.2 (encode_ne_nil empty)
    have filled : (Value.int (Text.Utf8.encode s).length).equalsInt 0 = false := by
      rw [Value.equalsInt_int]
      exact beq_eq_false_iff_ne.2 (by omega)
    obtain ⟨w', captured⟩ :=
      go_capture_under_of_repeatable chunk length filled
        ((offers_stored hx).mono (by decide)) pos
    exact ⟨_, w', captured, textUnder_bodyUnder empty pos⟩

/-- The second character has two bytes, and only one of them fits. -/
theorem capture_ofText_torn :
    ∃ w', go (capture 2 bufferChunkSize (some ⟨0⟩))
      { World.empty with entities := Store.empty.set ⟨0⟩ (.ofText "hé" Entity.textType) } =
        (.ok ⟨some ⟨"h... (truncated)", .int 3, true⟩, some ⟨0⟩, false⟩, w') := by
  obtain ⟨fits, -, captures⟩ := capture_ofText "hé"
  obtain ⟨body, w', captured, under⟩ := captures
    { World.empty with entities := Store.empty.set ⟨0⟩ (.ofText "hé" Entity.textType) } ⟨0⟩
    Entity.textType 2 bufferChunkSize (by decide) rfl
  obtain ⟨p, fit, rfl⟩ := under.torn (by decide)
  obtain rfl : p = "h" := fit.unique (fits 2)
  exact ⟨w', captured⟩

/-! ## Any bytes -/

/-- A later cut shows as much as an earlier one or more, and whole data as much as cut data.  What
whole data has besides is nothing or one replacement character, or two of them where it ends in the
first two bytes of a surrogate; so it is empty only if there are no bytes.  The same is true of the
captures of an entity that offers these bytes: under a greater limit at least as much is shown, the
marker apart. -/
theorem decodeBody_capture_mono (c : Bytes) :
    (∀ k₁ k₂, k₁ ≤ k₂ →
      (decodeBody (c.take k₁) true).toList <+: (decodeBody (c.take k₂) true).toList) ∧
    (∀ k, (decodeBody (c.take k) true).toList <+: (decodeBody c false).toList) ∧
    (¬ Text.Utf8.EndsInSurrogate c → decodeBody c false = decodeBody c true ∨
      decodeBody c false = decodeBody c true ++ "\uFFFD") ∧
    (Text.Utf8.EndsInSurrogate c → decodeBody c false = decodeBody c true ++ "\uFFFD\uFFFD") ∧
    (decodeBody c false = "" → c = []) ∧
    ∀ (w : World) (e : Ref Entity) (rep : Bool) (limit₁ limit₂ chunk : Int),
      w.Offers (max chunk readChunkSize) e rep c →
      (∀ f, (go (contentLength e) w).1 = .error f → f.interrupts = false) →
      0 < limit₁ → limit₁ ≤ limit₂ → 0 < chunk →
      ∃ r₁ w₁ r₂ w₂, go (capture limit₁ chunk (some e)) w = (.ok r₁, w₁) ∧
        go (capture limit₂ chunk (some e)) w = (.ok r₂, w₂) ∧ Widens r₁.body r₂.body := by
  refine ⟨fun k₁ k₂ le => ?_, fun k => ?_, decodeBody_whole_of_not,
    decodeBody_whole_of_endsInSurrogate, decodeBody_whole_eq_empty_iff.1, ?_⟩
  · rw [toList_decodeBody, toList_decodeBody]
    exact Text.Utf8.decode_take_mono le c
  · rw [toList_decodeBody, toList_decodeBody]
    exact Text.Utf8.decode_take_le_whole k c
  · intro w e rep limit₁ limit₂ chunk offers returns pos le step
    obtain ⟨body, widens, captures⟩ := exists_bodies offers step returns
    obtain ⟨r₁, w₁, captured₁, body₁⟩ := captures limit₁ pos
    obtain ⟨r₂, w₂, captured₂, body₂⟩ := captures limit₂ (by omega)
    refine ⟨r₁, w₁, r₂, w₂, captured₁, captured₂, ?_⟩
    rw [body₁, body₂]
    exact widens limit₁ limit₂ pos le

/-- The first two bytes of a surrogate are two replacement characters in whole data and nothing in
cut data. -/
theorem decodeBody_whole_two_more :
    ¬ (decodeBody [0xED, 0xA0] false = decodeBody [0xED, 0xA0] true ∨
      decodeBody [0xED, 0xA0] false = decodeBody [0xED, 0xA0] true ++ "\uFFFD") := by
  decide +kernel

/-- Two bytes of which the second one begins a surrogate, stored in memory. -/
theorem decodeBody_capture_mono_surrogate :
    ∃ r₁ w₁ r₂ w₂ w, w.entities.get ⟨0⟩ = .ofBytes [0x61, 0xED, 0xA0] .null .null ∧
      go (capture 1 bufferChunkSize (some ⟨0⟩)) w = (.ok r₁, w₁) ∧
      go (capture 2 bufferChunkSize (some ⟨0⟩)) w = (.ok r₂, w₂) ∧ Widens r₁.body r₂.body ∧
      decodeBody [0x61, 0xED, 0xA0] false =
        decodeBody [0x61, 0xED, 0xA0] true ++ "\uFFFD\uFFFD" := by
  set w : World := { World.empty with
    entities := Store.empty.set ⟨0⟩ (.ofBytes [0x61, 0xED, 0xA0] .null .null) }
  have hx : w.entities.get ⟨0⟩ = .ofBytes [0x61, 0xED, 0xA0] .null .null := rfl
  have length : go (contentLength ⟨0⟩) w = (.ok (.int 3), w) := go_contentLength hx rfl
  obtain ⟨-, -, -, two, -, captures⟩ := decodeBody_capture_mono [0x61, 0xED, 0xA0]
  obtain ⟨r₁, w₁, r₂, w₂, captured₁, captured₂, widens⟩ := captures w ⟨0⟩ true 1 2 bufferChunkSize
    ((offers_stored hx).mono (by decide))
    (fun f failed => by rw [length] at failed; exact nomatch failed)
    (by decide) (by decide) (by decide)
  refine ⟨r₁, w₁, r₂, w₂, w, hx, captured₁, captured₂, widens, two ⟨[0x61], 0xA0, rfl, ?_, ?_⟩⟩
  · decide
  · decide

end Act
end HttpTap
