import HttpTap.Proofs.Capture.Buffering
import HttpTap.Proofs.Capture.Calm
import HttpTap.Proofs.Capture.Reference
import HttpTap.Proofs.World.Spring

/-!
# Capturing what fails part way

A body that is read once may fail while it is buffered.  The entity is kept then, but its spring is
no longer where it was, and the capture goes on to read the entity from there.  So a body that fails
is read up to three times: by the buffering, by the reading up to the limit, and afterwards by
whoever it belongs to, each time from where the one before has stopped.

`go_capture_of_failing` follows the spring through the two readings of a capture.  Nothing at all is
read of an entity whose length is zero or cannot be told (`World.isRead`).
-/

namespace HttpTap

/-- The chunks of the entity come from the spring. -/
inductive Entity.DrawsFrom : Entity → Spring → Prop
  | file {q : Ref Request} {source : Ref Source} {type encoding : Value} (n : Nat) :
    DrawsFrom (.requestBody q (.file source) type encoding) (.file source n)
  | items {q : Ref Request} {iterator : Ref (List Item)} {type encoding : Value} :
    DrawsFrom (.requestBody q (.iterator iterator) type encoding) (.items iterator)
  | raw {p : Ref Response} {type encoding : Value} (source : Ref Source) (n : Nat) :
    DrawsFrom (.responseBody p type encoding) (.raw p source n)

theorem Entity.DrawsFrom.own {x : Entity} {k : Spring} (h : x.DrawsFrom k) :
    x.isScripted = false := by
  cases h <;> rfl

/-- Does a capture read an entity that is no stand-in?  It does if the length of the entity can be
told and is not zero. -/
def World.isRead (w : World) (x : Entity) : Bool :=
  match w.lengthOf x with
  | .ok d => !d.equalsInt 0
  | .error _ => false

namespace World

variable {w : World} {x : Entity} {k : Spring} {s : k.State}

/-- What a spring gives without a fault is what the entity offers. -/
theorem offers_of_draws {e : Ref Entity} (hx : w.entities.get e = x) (draws : x.DrawsFrom k)
    (holds : w.Holds k s) (more : ¬ k.Ended s) (whole : (k.drain s).fault = none) :
    w.Offers Value.maxCount e false (k.drain s).data := by
  have supplies : k.feed.Supplies (k.again s) (k.drain s).data := Feed.supplies_of_gather whole
  cases draws with
  | file n =>
    refine offers_file hx ?_
    rw [onItsOwn_of_get holds.1]
    rw [Spring.again, holds.2] at supplies
    exact supplies
  | items =>
    refine offers_iterator hx ?_
    obtain rfl : w.iterators.get _ = s := holds
    exact supplies
  | @raw p type encoding source n =>
    obtain ⟨sources, size, raw, unread, mark⟩ := holds
    have unmarked : (w.responses.get p).consumed = false :=
      Bool.eq_false_iff.2 fun consumed => more (mark.1 consumed)
    refine offers_unread hx unread unmarked ?_
    rw [raw, show w.rawStream (some source) = _ from onItsOwn_of_get sources]
    rw [Spring.again, size] at supplies
    exact supplies

theorem isRepeatable_of_draws (draws : x.DrawsFrom k) (holds : w.Holds k s) :
    w.isRepeatable x = false := by
  cases draws with
  | file n => rfl
  | items => rfl
  | @raw p type encoding source n =>
    show (w.responses.get p).content.isHeld = false
    rw [holds.2.2.2.1]
    rfl

/-- Integers decide by themselves whether the entity is read. -/
theorem isRead_of_lengthOf {length : Except Fault Int} (known : w.lengthOf x = length.map .int) :
    w.isRead x = isFilledLength length := by
  rw [isRead, known]
  cases length <;> rfl

/-- The length of an entity that is read is an integer other than zero. -/
theorem exists_length (draws : x.DrawsFrom k) (read : w.isRead x = true) :
    ∃ d : Int, w.lengthOf x = .ok (.int d) ∧ d ≠ 0 := by
  have integer : ∀ length : Except Fault Int, w.lengthOf x = length.map .int →
      ∃ d : Int, w.lengthOf x = .ok (.int d) ∧ d ≠ 0 := by
    intro length known
    rw [isRead_of_lengthOf known] at read
    cases length with
    | error f => exact absurd read Bool.false_ne_true
    | ok d => exact ⟨d, known, by simpa [isFilledLength] using read⟩
  cases draws with
  | file n => exact integer _ rfl
  | items => exact integer _ rfl
  | raw source n => exact integer _ rfl

end World

namespace Act

open World

variable {w w' : World} {e : Ref Entity} {x : Entity} {k : Spring} {s : k.State} {r : Ref Stream}
  {c : Chunked k.State} {limit chunk : Int}

/-! ## Streams over a spring -/

/-- Opening an entity that draws from a spring gives a new stream over the spring. -/
theorem go_openContent_of_draws (hx : w.entities.get e = x) (draws : x.DrawsFrom k)
    (holds : w.Holds k s) (more : ¬ k.Ended s) :
    go (openContent e) w = (.ok w.streams.next, { w with
      streams := (w.streams.alloc (k.stream (k.fresh s))).2 }) := by
  cases draws with
  | file n =>
    rw [go_openContent_requestBody hx]
    rfl
  | items =>
    rw [go_openContent_requestBody hx]
    rfl
  | @raw p type encoding source n =>
    obtain ⟨-, -, -, unread, mark⟩ := holds
    have unmarked : (w.responses.get p).consumed = false :=
      Bool.eq_false_iff.2 fun consumed => more (mark.1 consumed)
    rw [go_openContent_responseBody hx, openResponse, go_bind, go_view]
    dsimp only
    rw [unread, unmarked]
    rfl

/-- Reading a new stream to its end. -/
theorem go_drainStream_of_over (above : w.Over r k (k.fresh s))
    (within : 0 < chunk ∧ chunk ≤ Value.maxCount) :
    ∃ w', go (drainStream r chunk) w = (.ok ((k.drain s).data, (k.drain s).fault), w') ∧
      w'.Over r k ⟨(k.drain s).rest, [], false⟩ := by
  have drained : (Chunked.reader k.feed).drain chunk (k.fresh s) =
      ⟨(k.drain s).data, (k.drain s).fault, ⟨(k.drain s).rest, [], false⟩⟩ := by
    rw [Chunked.drain_eq k.feed (k.fresh s) within, Spring.fresh, Chunked.gather_nothing_pending]
    rfl
  have pulls : k.feed.Pulls (k.fresh s).feed (k.drain s).rest :=
    Feed.pulls_gather k.feed none (k.again s)
  obtain ⟨w', used, after⟩ := above.onStream (fun reader t =>
    (((reader.drain chunk t).data, (reader.drain chunk t).fault), (reader.drain chunk t).rest))
    (by rw [drained]) pulls
  refine ⟨w', ?_, after⟩
  show (let (result, w) := w.onStream r fun reader t =>
    (((reader.drain chunk t).data, (reader.drain chunk t).fault), (reader.drain chunk t).rest)
    (Except.ok result, w)) = _
  rw [used]

/-- Reading a new stream up to a limit takes one byte more from the spring. -/
theorem go_readBounded_of_over (above : w.Over r k (k.fresh s)) (pos : 0 < limit) :
    ∃ w' c, go (readBounded r limit readChunkSize) w = ((k.skim limit s).upTo limit, w') ∧
      w'.Over r k c ∧ c.feed = (k.skim limit s).rest := by
  have read : (Chunked.reader k.feed).readBounded limit readChunkSize (k.fresh s) =
      ((k.skim limit s).upTo limit,
        ⟨(k.skim limit s).rest, (k.skim limit s).data.drop (limit.toNat + 1), false⟩) :=
    Chunked.readBounded_eq k.feed (k.again s) false pos (by decide)
  have pulls : k.feed.Pulls (k.fresh s).feed (k.skim limit s).rest :=
    Feed.pulls_gather k.feed _ (k.again s)
  obtain ⟨w', used, after⟩ :=
    above.onStream (fun reader => reader.readBounded limit readChunkSize) read pulls
  exact ⟨w', _, used, after, rfl⟩

/-- Closing a stream leaves the spring as it is. -/
theorem go_closeStream_of_over (above : w.Over r k c) :
    ∃ w', go (closeStream r) w = (.ok (), w') ∧ w'.Holds k c.feed := by
  have closed : (Chunked.reader k.feed).close c = (.ok (), { c with closed := true }) := rfl
  obtain ⟨w', used, after⟩ := above.onStream (fun reader => reader.close) closed .refl
  exact ⟨w', used, after.holds⟩

/-! ## The readings of a capture -/

/-- There is room for what the adapter reads at once. -/
theorem bufferChunkSize_within : 0 < bufferChunkSize ∧ bufferChunkSize ≤ Value.maxCount := by
  decide

/-- Buffering tells what the spring gave, and leaves it there. -/
theorem go_bufferContent_of_draws (hx : w.entities.get e = x) (draws : x.DrawsFrom k)
    (holds : w.Holds k s) (more : ¬ k.Ended s) (within : 0 < chunk ∧ chunk ≤ Value.maxCount) :
    ∃ w', go (bufferContent e chunk) w = (.ok ((k.drain s).data, (k.drain s).fault), w') ∧
      w'.Holds k (k.drain s).rest ∧ w'.entities.get e = x := by
  have opened := go_openContent_of_draws hx draws holds more
  obtain ⟨w₂, drained, above⟩ := go_drainStream_of_over (over_newStream holds more) within
  obtain ⟨w₃, closed, left⟩ := go_closeStream_of_over above
  refine ⟨w₃, ?_, left, ?_⟩
  · rw [bufferContent, go_bind, go_observe, opened]
    dsimp only
    rw [go_bind_of_ok drained, go_bind, go_observe, closed]
    rfl
  · have drawn := ((drawn_drainStream _ chunk).of_go drained).trans
      ((drawn_closeStream _).of_go closed)
    rw [drawn.entities]
    exact hx

/-- An entity that fails is kept, in the state in which the fault has left its spring. -/
theorem go_makeRepeatable_of_failing (hx : w.entities.get e = x) (draws : x.DrawsFrom k)
    (holds : w.Holds k s) (more : ¬ k.Ended s) (within : 0 < chunk ∧ chunk ≤ Value.maxCount)
    (calm : w.Calm) (failed : (k.drain s).fault ≠ none) :
    ∃ w', go (makeRepeatable e chunk) w = (.ok ⟨e, 0, false⟩, w') ∧ w'.Calm ∧
      w'.Holds k (k.drain s).rest ∧ w'.entities.get e = x := by
  obtain ⟨f, fault⟩ := Option.ne_none_iff_exists'.1 failed
  obtain ⟨w₁, buffered, left, same⟩ := go_bufferContent_of_draws hx draws holds more within
  rw [fault] at buffered
  obtain ⟨calm₁, contained⟩ := Safe.of_go (succeeds_bufferContent e chunk).safe calm buffered
  have flagged := go_repeatable hx draws.own
  rw [isRepeatable_of_draws draws holds] at flagged
  exact ⟨_, go_makeRepeatable_of_fault flagged rfl buffered (contained f rfl),
    calm₁.of_same rfl rfl rfl rfl, left.of_same rfl rfl rfl, same⟩

/-- Opening an entity and reading it up to a limit. -/
theorem go_closing_of_draws (hx : w.entities.get e = x) (draws : x.DrawsFrom k)
    (holds : w.Holds k s) (more : ¬ k.Ended s) (pos : 0 < limit) :
    ∃ w', go (closing (openContent e) fun r => readBounded r limit readChunkSize) w =
        ((k.skim limit s).upTo limit, w') ∧ w'.Holds k (k.skim limit s).rest := by
  have opened := go_openContent_of_draws hx draws holds more
  obtain ⟨w₂, c, bounded, above, feed⟩ := go_readBounded_of_over (over_newStream holds more) pos
  obtain ⟨w₃, closed, left⟩ := go_closeStream_of_over above
  rw [feed] at left
  refine ⟨w₃, ?_, left⟩
  rw [closing, go_bind_of_ok opened, go_ensuring, bounded, closed]

/-- Reading an entity up to a limit leaves its spring one byte further. -/
theorem go_readBody_of_draws (declared : Value) (hx : w.entities.get e = x)
    (draws : x.DrawsFrom k) (holds : w.Holds k s) (more : ¬ k.Ended s) (pos : 0 < limit)
    (calm : w.Calm) :
    ∃ body w', go (readBody limit ⟨e, declared, none, false⟩) w = (.ok body, w') ∧ w'.Calm ∧
      w'.Holds k (k.skim limit s).rest := by
  obtain ⟨body, w', read, calm', -⟩ := (succeeds_readBody limit ⟨e, declared, none, false⟩).go calm
  refine ⟨body, w', read, calm', ?_⟩
  obtain ⟨w₃, through, left⟩ := go_closing_of_draws hx draws holds more pos
  generalize (k.skim limit s).upTo limit = outcome at through
  -- whatever the reading came to, the guard leaves the spring alone
  have said : ∀ f, go (do
      say (.contained captureChannel "Failed to capture entity content" f)
      return none) w₃ = (.ok body, w') → w'.Holds k (k.skim limit s).rest := by
    intro f said
    rw [← (Prod.mk.inj said).2]
    exact left.of_same rfl rfl rfl
  rw [readBody, go_attempt, go_bind, through] at read
  cases outcome with
  | error f =>
    dsimp only at read
    split at read
    · exact absurd (Prod.mk.inj read).1 (by simp)
    · exact said f read
  | ok chunk =>
    dsimp only at read
    rw [go_lift] at read
    cases made : capturedBody limit declared none chunk with
    | ok body' =>
      rw [made] at read
      rw [← (Prod.mk.inj read).2]
      exact left
    | error f =>
      rw [made] at read
      dsimp only at read
      split at read
      · exact absurd (Prod.mk.inj read).1 (by simp)
      · exact said f read

/-- Nothing is read of an entity whose length is zero or cannot be told. -/
theorem go_capture_of_unread (limit chunk : Int) (hx : w.entities.get e = x)
    (own : x.isScripted = false) (calm : w.Calm) (unread : w.isRead x = false) :
    ∃ lines, go (capture limit chunk (some e)) w =
      (.ok ⟨none, some e, false⟩, { w with log := lines }) := by
  have length := go_contentLength hx own
  rw [isRead] at unread
  cases known : w.lengthOf x with
  | error f =>
    rw [known] at length
    have contained := (Safe.of_go (safe_contentLength e) calm length).2
    exact ⟨_, go_capture_of_error (by rw [prepareEntity, go_bind_of_error length]) contained⟩
  | ok d =>
    rw [known] at length unread
    exact ⟨w.log, go_capture_of_none (go_prepareEntity_of_zero length (by simpa using unread))⟩

/-- Capturing an entity that does not fail gives a copy of what its spring gave. -/
theorem go_capture_of_whole (hx : w.entities.get e = x) (draws : x.DrawsFrom k)
    (holds : w.Holds k s) (more : ¬ k.Ended s) (pos : 0 < limit)
    (within : 0 < chunk ∧ chunk ≤ Value.maxCount) (whole : (k.drain s).fault = none)
    (read : w.isRead x = true) :
    ∃ body e' w', go (capture limit chunk (some e)) w = (.ok ⟨body, some e', true⟩, w') ∧
      w.NewCopy w' e' (k.drain s).data := by
  obtain ⟨d, known, filled⟩ := exists_length draws read
  have length := go_contentLength hx draws.own
  rw [known] at length
  have offers := (offers_of_draws hx draws holds more whole).mono within.2
  obtain ⟨body, e', w', captured, copy, -⟩ :=
    go_capture_of_once length rfl filled pos within.1 offers
  exact ⟨body, e', w', captured, copy⟩

/-- Capturing an entity that fails keeps the entity, and leaves its spring where the two readings
have left it. -/
theorem go_capture_of_failing (hx : w.entities.get e = x) (draws : x.DrawsFrom k)
    (holds : w.Holds k s) (more : ¬ k.Ended s) (pos : 0 < limit)
    (within : 0 < chunk ∧ chunk ≤ Value.maxCount) (calm : w.Calm)
    (failed : (k.drain s).fault ≠ none) (read : w.isRead x = true) :
    ∃ body w', go (capture limit chunk (some e)) w = (.ok ⟨body, some e, false⟩, w') ∧
      w'.Calm ∧ w'.Holds k (k.captured limit s) := by
  obtain ⟨d, known, filled⟩ := exists_length draws read
  have length := go_contentLength hx draws.own
  rw [known] at length
  have flagged := go_repeatable hx draws.own
  rw [isRepeatable_of_draws draws holds] at flagged
  obtain ⟨w₁, kept, calm₁, left, same⟩ :=
    go_makeRepeatable_of_failing hx draws holds more within calm failed
  obtain ⟨body, w', reading, calm', left'⟩ :=
    go_readBody_of_draws (.int d) same draws left (Spring.not_ended_of_fault failed) pos calm₁
  have prepared : go (prepareEntity e chunk) w = (.ok (some ⟨e, .int d, none, false⟩), w₁) := by
    rw [go_prepareEntity_of_falsy chunk length (filled_of_integer? rfl filled) flagged rfl,
      go_bind_of_ok kept]
    rfl
  exact ⟨body, w', go_capture_of_prepared prepared reading, calm', left'⟩

end Act
end HttpTap
