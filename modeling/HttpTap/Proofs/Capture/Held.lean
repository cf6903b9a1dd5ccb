import HttpTap.Proofs.Capture.Reference
import HttpTap.Proofs.Entity.Calm

/-!
# Entities that are held

The body of a request may be bytes or a text, and the content of a response may be loaded already.
Such an entity opens as a new stream over bytes in memory, if it opens at all.  To capture it is to
read that stream, which nobody else has, so everything that belongs to the program stays as it was
(`go_capture_of_held`).

Two things can go wrong.  A header may be no number in a way that is an error, and the content of a
response may be no bytes.  Both are contained.
-/

namespace HttpTap
namespace World

open Act

variable {w w' : World} {e : Ref Entity} {x : Entity} {r : Ref Stream}

/-! ## Streams that nobody else has -/

/-- Nothing that belongs to the program has changed, and the stream reads a source that did not
exist before. -/
structure Private (w : World) (r : Ref Stream) (w' : World) : Prop where
  untouched : w.Untouched w'
  direct : ∃ source, w'.streams.get r = .direct source ∧ ¬ w.sources.Has source

theorem private_openSource (s : Source) (w : World) :
    w.Private w.streams.next (go (openSource s) w).2 where
  untouched := ⟨rfl, rfl, rfl, Store.extends_alloc _ _⟩
  direct := ⟨w.sources.next, Store.get_alloc_same _ _, Store.not_has_next _⟩

/-- It stays so whatever is done with the stream. -/
theorem Private.putBack (h : w.Private r w') (s : (w'.opened r).σ) :
    w.Private r ((w'.opened r).putBack s) := by
  obtain ⟨source, kind, fresh⟩ := h.direct
  unfold opened at s ⊢
  generalize hk : w'.streams.get r = k at s ⊢
  obtain rfl : k = .direct source := hk.symm.trans kind
  exact ⟨⟨h.untouched.requests, h.untouched.responses, h.untouched.iterators,
    h.untouched.sources.set fresh _⟩, source, kind, fresh⟩

end World

/-! ## The length of a held entity -/

namespace World

open Act

variable {w w' : World} {e : Ref Entity} {x : Entity} {r : Ref Stream}

/-- The length of a held entity is an integer or cannot be read. -/
theorem lengthOf_contained (own : x.isScripted = false) (held : w.isRepeatable x = true) :
    Contained (fun v => ∃ d, v = .int d) (w.lengthOf x) := by
  cases x with
  | stored t bs type encoding => exact ⟨_, rfl⟩
  | once stream consumed length type encoding => exact absurd held Bool.false_ne_true
  | requestBody q body type encoding =>
    exact (requestLength_contained _ _).map fun d _ => ⟨d, rfl⟩
  | responseBody p type encoding =>
    exact (responseLength_contained _ _).map fun d _ => ⟨d, rfl⟩
  | scripted s => exact absurd own (by simp [Entity.isScripted])

end World

namespace Act

open World

variable {w w' : World} {e : Ref Entity} {x : Entity} {limit chunk : Int}

/-- A held entity opens as a new stream over bytes, or not at all. -/
theorem go_openContent_of_held (hx : w.entities.get e = x) (own : x.isScripted = false)
    (held : w.isRepeatable x = true) :
    (∃ bs, go (openContent e) w = go (openSource (.ofBytes bs)) w) ∨
      ∃ f, f.interrupts = false ∧ go (openContent e) w = (.error f, w) := by
  cases x with
  | stored t bs type encoding => exact Or.inl ⟨bs, go_openContent_stored hx⟩
  | once stream consumed length type encoding => exact absurd held Bool.false_ne_true
  | requestBody q body type encoding =>
    rw [go_openContent_requestBody hx]
    cases body with
    | bytes bs => exact Or.inl ⟨bs, rfl⟩
    | buffer bs => exact Or.inl ⟨bs, rfl⟩
    | text s => exact Or.inl ⟨Text.Utf8.encode s, rfl⟩
    | _ => exact absurd held Bool.false_ne_true
  | responseBody p type encoding =>
    rw [go_openContent_responseBody hx, openResponse, go_bind, go_view]
    have isHeld : (w.responses.get p).content.isHeld = true := held
    dsimp only
    cases content : (w.responses.get p).content with
    | unread =>
      rw [content] at isHeld
      exact absurd isHeld Bool.false_ne_true
    | held v =>
      dsimp only
      split
      · split
        · exact Or.inl ⟨_, rfl⟩
        · exact Or.inr ⟨_, rfl, rfl⟩
      · exact Or.inl ⟨[], rfl⟩
  | scripted s => exact absurd own (by simp [Entity.isScripted])

theorem untouched_say (x : LogRecord) : Keeps Untouched (say x) :=
  keeps_change fun _ => ⟨rfl, rfl, rfl, .refl _⟩

/-- Reading a held entity leaves everything as it was that belongs to the program. -/
theorem go_readBody_of_held (hx : w.entities.get e = x) (own : x.isScripted = false)
    (held : w.isRepeatable x = true) {declared : Value} {d : Int}
    (hd : declared.integer? = some d) (pos : 0 < limit) :
    ∃ body w', go (readBody limit ⟨e, declared, none, false⟩) w = (.ok body, w') ∧
      w.Untouched w' := by
  rcases go_openContent_of_held hx own held with ⟨bs, opened⟩ | ⟨f, contained, opened⟩
  · have serves :=
      serves_openSource w (Source.delivers_ofBytes bs) (Source.closesCleanly_ofBytes bs)
    have small : readChunkSize ≤ largestSize := by decide
    obtain ⟨body, made, -⟩ := exists_capturedBody (c := bs) hd pos true rfl
    refine ⟨body, _, go_readBody (p := ⟨e, declared, none, false⟩)
      (opened.trans (go_openSource _ w)) (serves.mono small) pos made, ?_⟩
    have reads : Keeps (Preserves (w.Private w.streams.next))
        (readBounded w.streams.next limit readChunkSize) := fun _ h => h.putBack _
    have closes : Keeps (Preserves (w.Private w.streams.next)) (closeStream w.streams.next) :=
      fun _ h => h.putBack _
    exact (reads.ensuring closes _ (private_openSource (.ofBytes bs) w)).untouched
  · have failed : go (do
        let read ← closing (openContent e) fun r => readBounded r limit readChunkSize
        lift (capturedBody limit declared none read)) w = (.error f, w) := by
      rw [go_bind, closing, go_bind_of_error opened]
    exact ⟨none, _, go_attempt_of_error failed contained, untouched_say _ w⟩

/-- Capturing a held entity leaves everything as it was that belongs to the program. -/
theorem go_capture_of_held (chunk : Int) (hx : w.entities.get e = x) (own : x.isScripted = false)
    (held : w.isRepeatable x = true) (pos : 0 < limit) :
    ∃ body w', go (capture limit chunk (some e)) w = (.ok ⟨body, some e, false⟩, w') ∧
      w.Untouched w' := by
  have length := go_contentLength hx own
  have contained := lengthOf_contained own held
  cases known : w.lengthOf x with
  | error f =>
    rw [known] at length contained
    have failed : go (prepareEntity e chunk) w = (.error f, w) := by
      rw [prepareEntity, go_bind_of_error length]
    exact ⟨none, _, go_capture_of_error failed contained, untouched_say
      (.contained captureChannel "Failed to prepare entity for capture" f) w⟩
  | ok v =>
    rw [known] at length contained
    obtain ⟨d, rfl⟩ := contained
    by_cases zero : d = 0
    · subst zero
      exact ⟨none, w, go_capture_of_zero length rfl, .refl w⟩
    · have prepared : go (prepareEntity e chunk) w =
          (.ok (some ⟨e, .int d, none, false⟩), w) := by
        rw [prepareEntity, go_bind_of_ok length]
        rw [if_neg (by simpa using zero), go_bind, go_repeatable hx own, held]
        rfl
      have hd : (Value.int d).integer? = some d := rfl
      obtain ⟨body, w', read, untouched⟩ := go_readBody_of_held hx own held hd pos
      exact ⟨body, w', go_capture_of_prepared prepared read, untouched⟩

end Act
end HttpTap
