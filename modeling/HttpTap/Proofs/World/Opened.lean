import HttpTap.Proofs.Reading.Ground
import HttpTap.Proofs.World.Change
import Mathlib.Tactic.Set

/-!
# Streams of the world

An opened stream is put together from parts that the world holds, used, and put back.  Two laws
make that a view of the world.

* What was put back is found again (`of_opened_putBack`): the stream that is put together next is
  the same reader in the state that was put back.
* Nothing else changes (`drawn_putBack`).

With them a fact about readers becomes one about the world.  `World.Serves w most r c` says of an
opened stream that it delivers `c` to reads of at most `most` bytes and closes without a fault;
reading it to its end or up to a limit and closing it then succeeds and only draws on the world
(`go_drain_close`, `go_bounded_close`).
-/

namespace HttpTap
namespace World

variable {w w' : World} {r : Ref Stream} {c : Bytes} {most : Int}

/-! ## What was put back is found again -/

section Found

-- A property of a reader and its state.
variable {P : {σ : Type} → Reader σ → σ → Prop}

theorem of_onItsOwn_putBack {source : Ref Source} {s : (w.onItsOwn source).σ}
    (h : P (w.onItsOwn source).reader s)
    (same : w'.sources = ((w.onItsOwn source).putBack s).sources) :
    P (w'.onItsOwn source).reader (w'.onItsOwn source).state := by
  have found : w'.sources.get source = ⟨(w.sources.get source).floors, s⟩ := by
    rw [same]
    exact Store.get_set_same _ _ _
  show P (Tower.reader (w'.sources.get source).floors) (w'.sources.get source).state
  rw [found]
  exact h

theorem of_rawStream_putBack {raw : Option (Ref Source)} {s : (w.rawStream raw).σ}
    (h : P (w.rawStream raw).reader s)
    (same : w'.sources = ((w.rawStream raw).putBack s).sources) :
    P (w'.rawStream raw).reader (w'.rawStream raw).state := by
  cases raw with
  | some source => exact of_onItsOwn_putBack h same
  | none => exact h

theorem of_rawStream_same {raw : Option (Ref Source)}
    (h : P (w.rawStream raw).reader (w.rawStream raw).state) (same : w'.sources = w.sources) :
    P (w'.rawStream raw).reader (w'.rawStream raw).state := by
  cases raw with
  | some source =>
    show P (Tower.reader (w'.sources.get source).floors) (w'.sources.get source).state
    rw [same]
    exact h
  | none => exact h

theorem sources_markEnded (w : World) (p : Ref Response) (supply : Supply) :
    (w.markEnded p supply).sources = w.sources := by
  unfold markEnded
  split <;> rfl

theorem streams_markEnded (w : World) (p : Ref Response) (supply : Supply) :
    (w.markEnded p supply).streams = w.streams := by
  unfold markEnded
  split <;> rfl

theorem trace_markEnded (w : World) (p : Ref Response) (supply : Supply) :
    (w.markEnded p supply).trace = w.trace := by
  unfold markEnded
  split <;> rfl

/-- Marking a response leaves all but the mark. -/
theorem get_markEnded (w : World) (p q : Ref Response) (supply : Supply) :
    (w.responses.get q).Marked ((w.markEnded p supply).responses.get q) := by
  unfold markEnded
  split
  · by_cases same : q = p
    · subst same
      show (w.responses.get q).Marked ((w.responses.set q _).get q)
      rw [Store.get_set_same]
      exact ⟨rfl, fun _ => rfl⟩
    · show (w.responses.get q).Marked ((w.responses.set p _).get q)
      rw [Store.get_set_other same]
      exact .refl _
  · exact .refl _

theorem raw_markEnded (w : World) (p q : Ref Response) (supply : Supply) :
    ((w.markEnded p supply).responses.get q).raw = (w.responses.get q).raw :=
  (get_markEnded w p q supply).raw

theorem responses_rawStream (w : World) (raw : Option (Ref Source)) (s : (w.rawStream raw).σ) :
    ((w.rawStream raw).putBack s).responses = w.responses := by
  cases raw <;> rfl

/-- The stream that is put together after putting back is the one that was put back. -/
theorem of_opened_putBack {s : (w.opened r).σ} (reached : (w.opened r).reader.Reaches
    (w.opened r).state s) (h : P (w.opened r).reader s) :
    P (((w.opened r).putBack s).opened r).reader (((w.opened r).putBack s).opened r).state := by
  unfold opened at s reached h ⊢
  generalize kind : w.streams.get r = k at s reached h ⊢
  cases k with
  | direct source =>
    have again : ((w.assemble r (.direct source)).putBack s).streams.get r = .direct source := kind
    rw [again]
    exact of_onItsOwn_putBack (w := w) (s := s) h rfl
  | overFile source layer =>
    have again : ((w.assemble r (.overFile source layer)).putBack s).streams.get r =
        .overFile source ⟨s.feed.supply, s.pending, s.closed⟩ := Store.get_set_same _ _ _
    have size : s.feed.size = streamChunkSize :=
      (Feed.pulls_pieces (Chunked.pulls_of_reaches reached)).2
    rw [again]
    refine of_onItsOwn_putBack (w := w) (s := s.feed.source)
      (P := fun reader state => P (Chunked.reader (.pieces reader))
        ⟨⟨state, streamChunkSize, s.feed.supply⟩, s.pending, s.closed⟩) ?_ rfl
    rw [← size]
    exact h
  | overItems items layer =>
    have again : ((w.assemble r (.overItems items layer)).putBack s).streams.get r =
        .overItems items { layer with pending := s.pending, closed := s.closed } :=
      Store.get_set_same _ _ _
    have found : ((w.assemble r (.overItems items layer)).putBack s).iterators.get items = s.feed :=
      Store.get_set_same _ _ _
    rw [again]
    show P (Chunked.reader .items) ⟨((w.assemble r (.overItems items layer)).putBack s).iterators.get
      items, s.pending, s.closed⟩
    rw [found]
    exact h
  | overResponse response layer =>
    set w' := (w.assemble r (.overResponse response layer)).putBack s with hw'
    have again : w'.streams.get r =
        .overResponse response ⟨s.feed.supply, s.pending, s.closed⟩ := by
      rw [hw']
      show (markEnded _ response s.feed.supply).streams.get r = _
      rw [streams_markEnded]
      exact Store.get_set_same _ _ _
    have raw : (w'.responses.get response).raw = (w.responses.get response).raw := by
      rw [hw']
      refine (raw_markEnded _ response response s.feed.supply).trans ?_
      show (((w.rawStream (w.responses.get response).raw).putBack s.feed.source).responses.get
        response).raw = _
      rw [responses_rawStream]
    have sources : w'.sources =
        ((w.rawStream (w.responses.get response).raw).putBack s.feed.source).sources := by
      rw [hw']
      exact sources_markEnded _ _ _
    have size : s.feed.size = streamChunkSize :=
      (Feed.pulls_pieces (Chunked.pulls_of_reaches reached)).2
    rw [again]
    show P (Chunked.reader (.pieces (w'.rawStream (w'.responses.get response).raw).reader))
      ⟨⟨(w'.rawStream (w'.responses.get response).raw).state, streamChunkSize, s.feed.supply⟩,
        s.pending, s.closed⟩
    rw [raw]
    refine of_rawStream_putBack (w := w) (s := s.feed.source)
      (P := fun reader state => P (Chunked.reader (.pieces reader))
        ⟨⟨state, streamChunkSize, s.feed.supply⟩, s.pending, s.closed⟩) ?_ sources
    rw [← size]
    exact h

/-- A stream is put together from the streams, the sources, the iterators and the raw streams of
the responses, and from nothing else. -/
theorem of_opened_same (h : P (w.opened r).reader (w.opened r).state)
    (streams : w'.streams.get r = w.streams.get r) (sources : w'.sources = w.sources)
    (iterators : w'.iterators = w.iterators)
    (raws : ∀ p, (w'.responses.get p).raw = (w.responses.get p).raw) :
    P (w'.opened r).reader (w'.opened r).state := by
  unfold opened at h ⊢
  rw [streams]
  generalize w.streams.get r = k at h ⊢
  cases k with
  | direct source =>
    show P (Tower.reader (w'.sources.get source).floors) (w'.sources.get source).state
    rw [sources]
    exact h
  | overFile source layer =>
    show P (Chunked.reader (.pieces (Tower.reader (w'.sources.get source).floors)))
      ⟨⟨(w'.sources.get source).state, streamChunkSize, layer.supply⟩, layer.pending, layer.closed⟩
    rw [sources]
    exact h
  | overItems items layer =>
    show P (Chunked.reader .items) ⟨w'.iterators.get items, layer.pending, layer.closed⟩
    rw [iterators]
    exact h
  | overResponse response layer =>
    show P (Chunked.reader (.pieces (w'.rawStream (w'.responses.get response).raw).reader))
      ⟨⟨(w'.rawStream (w'.responses.get response).raw).state, streamChunkSize, layer.supply⟩,
        layer.pending, layer.closed⟩
    rw [raws]
    refine of_rawStream_same (w := w) (P := fun reader state => P (Chunked.reader (.pieces reader))
      ⟨⟨state, streamChunkSize, layer.supply⟩, layer.pending, layer.closed⟩) h sources

end Found

/-! ## Nothing else changes -/

theorem drawn_onItsOwn (w : World) (source : Ref Source) (s : (w.onItsOwn source).σ) :
    w.Drawn ((w.onItsOwn source).putBack s) :=
  ⟨rfl, rfl, rfl, rfl, rfl, rfl, fun _ => .refl _⟩

theorem drawn_rawStream (w : World) (raw : Option (Ref Source)) (s : (w.rawStream raw).σ) :
    w.Drawn ((w.rawStream raw).putBack s) := by
  cases raw with
  | some source => exact drawn_onItsOwn w source s
  | none => exact .refl w

theorem drawn_streams (w : World) (streams : Store Stream) :
    w.Drawn { w with streams := streams } :=
  ⟨rfl, rfl, rfl, rfl, rfl, rfl, fun _ => .refl _⟩

theorem drawn_markEnded (w : World) (p : Ref Response) (supply : Supply) :
    w.Drawn (w.markEnded p supply) := by
  refine ⟨?_, ?_, ?_, ?_, ?_, ?_, fun q => get_markEnded w p q supply⟩ <;>
    (unfold markEnded; split <;> rfl)

/-- Putting a stream back in whatever state only draws on the world. -/
theorem drawn_putBack (w : World) (r : Ref Stream) (s : (w.opened r).σ) :
    w.Drawn ((w.opened r).putBack s) := by
  unfold opened at s ⊢
  generalize w.streams.get r = k at s ⊢
  cases k with
  | direct source => exact drawn_onItsOwn w source s
  | overFile source layer =>
    exact (drawn_onItsOwn w source s.feed.source).trans (drawn_streams _ _)
  | overItems items layer =>
    exact ⟨rfl, rfl, rfl, rfl, rfl, rfl, fun _ => .refl _⟩
  | overResponse response layer =>
    exact ((drawn_rawStream w _ s.feed.source).trans (drawn_streams _ _)).trans
      (drawn_markEnded _ _ _)

/-! ## Streams that serve -/

/-- The opened stream delivers `c` to reads of at most `most` bytes, and closes without a fault. -/
structure Serves (w : World) (most : Int) (r : Ref Stream) (c : Bytes) : Prop where
  delivers : (w.opened r).reader.Delivers most (w.opened r).state c
  closes : (w.opened r).reader.ClosesCleanly (w.opened r).state

theorem Serves.mono {fewer : Int} (le : fewer ≤ most) (h : w.Serves most r c) :
    w.Serves fewer r c :=
  ⟨h.delivers.mono le, h.closes⟩

theorem Serves.of_same (h : w.Serves most r c) (streams : w'.streams.get r = w.streams.get r)
    (sources : w'.sources = w.sources) (iterators : w'.iterators = w.iterators)
    (raws : ∀ p, (w'.responses.get p).raw = (w.responses.get p).raw) : w'.Serves most r c where
  delivers := of_opened_same (P := fun reader s => reader.Delivers most s c) h.delivers streams
    sources iterators raws
  closes := of_opened_same (P := fun reader s => reader.ClosesCleanly s) h.closes streams sources
    iterators raws

/-- A new stream is put together as its kind says. -/
theorem serves_newStream {s : Stream}
    (delivers : (w.assemble w.streams.next s).reader.Delivers most
      (w.assemble w.streams.next s).state c)
    (closes : (w.assemble w.streams.next s).reader.ClosesCleanly
      (w.assemble w.streams.next s).state) :
    ({ w with streams := (w.streams.alloc s).2 } : World).Serves most w.streams.next c := by
  have kind : (w.streams.alloc s).2.get w.streams.next = s := Store.get_alloc_same _ _
  refine ⟨?_, ?_⟩ <;>
    (unfold opened
     rw [kind]
     cases s with
     | overResponse p layer =>
       dsimp only [assemble, inPieces] at delivers closes ⊢
       generalize (w.responses.get p).raw = raw at delivers closes ⊢
       cases raw <;> assumption
     | _ => assumption)

end World

namespace Act

open World

variable {w : World} {r : Ref Stream} {c : Bytes}

theorem go_drainStream (r : Ref Stream) (chunk : Int) (w : World) :
    go (drainStream r chunk) w =
      (.ok (((w.opened r).reader.drain chunk (w.opened r).state).data,
          ((w.opened r).reader.drain chunk (w.opened r).state).fault),
        (w.opened r).putBack ((w.opened r).reader.drain chunk (w.opened r).state).rest) := rfl

theorem go_readBounded (r : Ref Stream) (limit chunk : Int) (w : World) :
    go (readBounded r limit chunk) w =
      (((w.opened r).reader.readBounded limit chunk (w.opened r).state).1,
        (w.opened r).putBack
          ((w.opened r).reader.readBounded limit chunk (w.opened r).state).2) := rfl

theorem go_closeStream (r : Ref Stream) (w : World) :
    go (closeStream r) w =
      (((w.opened r).reader.close (w.opened r).state).1,
        (w.opened r).putBack ((w.opened r).reader.close (w.opened r).state).2) := rfl

theorem go_readStream (r : Ref Stream) (size : Int) (w : World) :
    go (readStream r size) w =
      (((w.opened r).reader.read size (w.opened r).state).1,
        (w.opened r).putBack ((w.opened r).reader.read size (w.opened r).state).2) := rfl

theorem drawn_drainStream (r : Ref Stream) (chunk : Int) : Keeps Drawn (drainStream r chunk) :=
  fun w => drawn_putBack w r _

theorem drawn_closeStream (r : Ref Stream) : Keeps Drawn (closeStream r) :=
  fun w => drawn_putBack w r _

/-- A stream that closes cleanly can be closed after any reads. -/
theorem go_closeStream_of_reads (h : (w.opened r).reader.ClosesCleanly (w.opened r).state)
    {s : (w.opened r).σ} (reads : (w.opened r).reader.Reads (w.opened r).state s) :
    ∃ w', go (closeStream r) ((w.opened r).putBack s) = (.ok (), w') ∧ w.Drawn w' := by
  have closes : ((w.opened r).reader.close s).1 = .ok () := h s reads
  have again := of_opened_putBack (P := fun reader s => (reader.close s).1 = .ok ())
    reads.reaches closes
  refine ⟨_, by rw [go_closeStream, again], ?_⟩
  exact (drawn_putBack w r s).trans (drawn_putBack _ r _)

/-- Reading a stream to its end and closing it. -/
theorem go_drain_close {chunk : Int} (h : w.Serves chunk r c) (pos : 0 < chunk) :
    ∃ w₁ w₂, go (drainStream r chunk) w = (.ok (c, none), w₁) ∧
      go (closeStream r) w₁ = (.ok (), w₂) ∧ w.Drawn w₂ := by
  obtain ⟨s, drained, reads⟩ := Reader.drain_of_delivers h.delivers ⟨pos, Int.le_refl _⟩
  obtain ⟨w₂, closed, drawn⟩ := go_closeStream_of_reads h.closes reads
  exact ⟨_, w₂, by rw [go_drainStream, drained], closed, drawn⟩

/-- Reading a stream up to a limit, and closing it in any case. -/
theorem go_bounded_close (h : w.Serves readChunkSize r c) {limit : Int} (pos : 0 < limit) :
    ∃ w', go (ensuring (readBounded r limit readChunkSize) (closeStream r)) w =
      (.ok ⟨c.take limit.toNat, decide (limit.toNat < c.length)⟩, w') ∧ w.Drawn w' := by
  obtain ⟨s, bounded, reads⟩ := Reader.readBounded_of_delivers h.delivers pos
    ⟨show 0 < readChunkSize by decide, Int.le_refl _⟩
  obtain ⟨w', closed, drawn⟩ := go_closeStream_of_reads h.closes reads
  have read : go (readBounded r limit readChunkSize) w =
      (.ok ⟨c.take limit.toNat, decide (limit.toNat < c.length)⟩, (w.opened r).putBack s) := by
    rw [go_readBounded, bounded]
  refine ⟨w', ?_, drawn⟩
  rw [go_ensuring, read, closed]

end Act
end HttpTap
