import HttpTap.Proofs.Reading.Closing
import HttpTap.Proofs.World.Opened

/-!
# Reading and closing opened streams

What reading and closing do to a reader, they do to an opened stream of the world.
`World.ReadFrom r w w'` says that between the two worlds the stream `r` was read, and nothing else
was done; the stand-in underneath, if there is one, has noted reads (`ReadFrom.trace`).  Closing is
noted as `World.closing` says, and closes every stream that has a close method (`trace_closeStream`,
`isClosed_closeStream`).

A source is closed by nobody but who holds it directly: a stream over a file or over the raw stream
of a response may be read and closed, and what it lies over stays open (`closed_putBack`).
-/

namespace HttpTap

/-- Is the event a call that closes a stand-in? -/
def Event.isClosing : Event → Bool
  | .stream (.close _) => true
  | _ => false

/-- Is the event a read of a stand-in? -/
def Event.IsRead : Event → Prop
  | .stream c => c.IsRead
  | _ => False

theorem Event.isClosing_of_isRead {x : Event} (h : x.IsRead) : x.isClosing = false := by
  cases x with
  | stream c =>
    cases c with
    | read name size mark => rfl
    | close name => exact h.elim
  | _ => exact h.elim

/-- Is the stream closed? -/
def Source.closed (s : Source) : Bool := Tower.closed s.floors s.state

namespace World

open Act

variable {w w' : World} {r : Ref Stream} {source : Ref Source}

/-- The source that the opened stream hands out as it is. -/
def direct? (w : World) (r : Ref Stream) : Option (Ref Source) :=
  match w.streams.get r with
  | .direct source => some source
  | _ => none

/-- Does the opened stream have a close method? -/
def closable (w : World) (r : Ref Stream) : Bool :=
  match w.direct? r with
  | some source => Tower.closable (w.sources.get source).floors (w.sources.get source).state
  | none => true

/-- What is noted when the opened stream is closed. -/
def closing (w : World) (r : Ref Stream) : List Event :=
  match w.direct? r with
  | some source =>
    (Tower.closing (w.sources.get source).floors (w.sources.get source).state).map .stream
  | none => []

/-- The calls by which stand-ins were closed, the latest first. -/
def closings (w : World) : List Event := w.trace.filter Event.isClosing

/-- The stream was read, and nothing else was done. -/
def ReadFrom (r : Ref Stream) (w w' : World) : Prop :=
  ∃ s, (w.opened r).reader.Reads (w.opened r).state s ∧ w' = (w.opened r).putBack s

/-! ## Streams as they are and streams over others -/

theorem opened_of_direct (h : w.direct? r = some source) : w.opened r = w.onItsOwn source := by
  unfold direct? at h
  split at h
  · next found kind =>
    obtain rfl : found = source := Option.some.inj h
    rw [opened, kind]
    rfl
  · exact nomatch h

/-- Closing a stream over another one is nothing that anybody notes. -/
theorem calls_close_of_over (h : w.direct? r = none) :
    (w.opened r).reader.calls ((w.opened r).reader.close (w.opened r).state).2 =
      (w.opened r).reader.calls (w.opened r).state := by
  unfold direct? at h
  unfold opened
  cases kind : w.streams.get r with
  | direct source =>
    rw [kind] at h
    exact nomatch h
  | _ => rfl

/-- A stream over another one is never that one itself, whatever is done with it. -/
theorem direct?_putBack (s : (w.opened r).σ) :
    ((w.opened r).putBack s).direct? r = w.direct? r := by
  unfold direct? opened at *
  generalize kind : w.streams.get r = k at s ⊢
  cases k with
  | direct source =>
    have again : ((w.assemble r (.direct source)).putBack s).streams.get r = .direct source := kind
    rw [again]
  | overFile source layer =>
    have again : ((w.assemble r (.overFile source layer)).putBack s).streams.get r =
        .overFile source ⟨s.feed.supply, s.pending, s.closed⟩ := Store.get_set_same _ _ _
    rw [again]
  | overItems items layer =>
    have again : ((w.assemble r (.overItems items layer)).putBack s).streams.get r =
        .overItems items { layer with pending := s.pending, closed := s.closed } :=
      Store.get_set_same _ _ _
    rw [again]
  | overResponse p layer =>
    have again : ((w.assemble r (.overResponse p layer)).putBack s).streams.get r =
        .overResponse p ⟨s.feed.supply, s.pending, s.closed⟩ := by
      show (markEnded _ p s.feed.supply).streams.get r = _
      rw [streams_markEnded]
      exact Store.get_set_same _ _ _
    rw [again]

/-! ## What is noted -/

theorem notesReads_rawStream (w : World) (raw : Option (Ref Source)) :
    (w.rawStream raw).reader.NotesReads := by
  cases raw with
  | some source => exact Tower.notesReads _
  | none => exact fun _ _ => .refl _

theorem notesReads_opened (w : World) (r : Ref Stream) : (w.opened r).reader.NotesReads := by
  unfold opened
  cases w.streams.get r with
  | direct source => exact Tower.notesReads _
  | overFile source layer =>
    exact Chunked.notesReads (Feed.notesReads_pieces (Tower.notesReads _))
  | overItems items layer => exact Chunked.notesReads Feed.notesReads_items
  | overResponse p layer =>
    exact Chunked.notesReads (Feed.notesReads_pieces (notesReads_rawStream w _))

theorem trace_noteCalls (w : World) (old new : List Call) :
    (w.noteCalls old.length (new ++ old)).trace = new.map Event.stream ++ w.trace := by
  show ((new ++ old).take ((new ++ old).length - old.length)).map Event.stream ++ w.trace = _
  rw [List.length_append, Nat.add_sub_cancel, List.take_left]

theorem trace_onItsOwn {s : (w.onItsOwn source).σ} {new : List Call}
    (grown : (w.onItsOwn source).reader.calls s =
      new ++ (w.onItsOwn source).reader.calls (w.onItsOwn source).state) :
    ((w.onItsOwn source).putBack s).trace = new.map Event.stream ++ w.trace := by
  show (noteCalls _ _ ((w.onItsOwn source).reader.calls s)).trace = _
  rw [grown]
  exact trace_noteCalls _ _ new

theorem trace_rawStream {raw : Option (Ref Source)} {s : (w.rawStream raw).σ} {new : List Call}
    (grown : (w.rawStream raw).reader.calls s =
      new ++ (w.rawStream raw).reader.calls (w.rawStream raw).state) :
    ((w.rawStream raw).putBack s).trace = new.map Event.stream ++ w.trace := by
  cases raw with
  | some source => exact trace_onItsOwn grown
  | none =>
    obtain rfl : new = [] := List.append_eq_nil_iff.1 grown.symm |>.1
    rfl

/-- What the stand-in underneath has noted is in the trace. -/
theorem trace_putBack {s : (w.opened r).σ} {new : List Call}
    (grown : (w.opened r).reader.calls s =
      new ++ (w.opened r).reader.calls (w.opened r).state) :
    ((w.opened r).putBack s).trace = new.map Event.stream ++ w.trace := by
  unfold opened at s grown ⊢
  generalize w.streams.get r = k at s grown ⊢
  cases k with
  | direct source => exact trace_onItsOwn grown
  | overFile source layer => exact trace_onItsOwn (s := s.feed.source) grown
  | overItems items layer =>
    obtain rfl : new = [] := List.append_eq_nil_iff.1 grown.symm |>.1
    rfl
  | overResponse p layer =>
    refine (trace_markEnded _ p s.feed.supply).trans ?_
    exact trace_rawStream (s := s.feed.source) grown

/-- Reading a stream is noted as reads. -/
theorem ReadFrom.trace (h : ReadFrom r w w') :
    ∃ reads, (∀ x ∈ reads, Event.IsRead x) ∧ w'.trace = reads ++ w.trace := by
  obtain ⟨s, reads, rfl⟩ := h
  obtain ⟨new, areReads, grown⟩ := OnlyReads.reads (notesReads_opened w r) reads
  refine ⟨new.map Event.stream, fun x mem => ?_, trace_putBack grown⟩
  obtain ⟨c, is_new, rfl⟩ := List.mem_map.1 mem
  exact areReads c is_new

theorem ReadFrom.closings (h : ReadFrom r w w') : w'.closings = w.closings := by
  obtain ⟨reads, areReads, trace⟩ := h.trace
  have no_closing : reads.filter Event.isClosing = [] :=
    List.filter_eq_nil_iff.2 fun x mem =>
      Bool.eq_false_iff.1 (Event.isClosing_of_isRead (areReads x mem))
  rw [World.closings, trace, List.filter_append, no_closing]
  rfl

/-- Closing a stream is noted as it should be. -/
theorem trace_closeStream (r : Ref Stream) (w : World) :
    (go (closeStream r) w).2.trace = w.closing r ++ w.trace := by
  rw [go_closeStream, closing]
  cases direct : w.direct? r with
  | some source =>
    rw [opened_of_direct direct]
    exact trace_onItsOwn (Tower.calls_close _ _)
  | none =>
    have silent : _ = [] ++ _ := calls_close_of_over direct
    exact trace_putBack silent

theorem isClosing_of_mem_closing {x : Event} (mem : x ∈ w.closing r) : x.isClosing = true := by
  unfold closing at mem
  split at mem
  · obtain ⟨c, called, rfl⟩ := List.mem_map.1 mem
    obtain ⟨name, rfl⟩ := Tower.eq_close_of_mem_closing called
    rfl
  · exact absurd mem List.not_mem_nil

theorem closings_closeStream (r : Ref Stream) (w : World) :
    (go (closeStream r) w).2.closings = w.closing r ++ w.closings := by
  rw [closings, trace_closeStream, List.filter_append,
    List.filter_eq_self.2 fun _ mem => isClosing_of_mem_closing mem]
  rfl

/-! ## What is closed -/

/-- The source is open or closed as it was before, and closing it is what it was. -/
def KeepsLock (q : Ref Source) (w w' : World) : Prop :=
  ∃ n s s', w.sources.get q = ⟨n, s⟩ ∧ w'.sources.get q = ⟨n, s'⟩ ∧ Tower.SameLock n s s'

theorem keepsLock_of_eq {q : Ref Source} (same : w'.sources.get q = w.sources.get q) :
    KeepsLock q w w' := ⟨_, _, _, rfl, same, .refl _⟩

theorem KeepsLock.closed {q : Ref Source} (h : KeepsLock q w w') :
    (w'.sources.get q).closed = (w.sources.get q).closed := by
  obtain ⟨n, s, s', before, after, lock⟩ := h
  rw [before, after]
  exact lock.closed

theorem keepsLock_onItsOwn {s : (w.onItsOwn source).σ}
    (lock : Tower.SameLock _ (w.sources.get source).state s) (q : Ref Source) :
    KeepsLock q w ((w.onItsOwn source).putBack s) := by
  by_cases same : q = source
  · subst same
    exact ⟨_, _, s, rfl, Store.get_set_same _ _ _, lock⟩
  · exact keepsLock_of_eq (Store.get_set_other same _)

theorem keepsLock_rawStream {raw : Option (Ref Source)} {s : (w.rawStream raw).σ}
    (reads : (w.rawStream raw).reader.Reads (w.rawStream raw).state s) (q : Ref Source) :
    KeepsLock q w ((w.rawStream raw).putBack s) := by
  cases raw with
  | some source => exact keepsLock_onItsOwn (Tower.sameLock_reads reads) q
  | none => exact keepsLock_of_eq rfl

/-- Whatever is done with a stream over a source, the source is as open as it was. -/
theorem keepsLock_of_over (h : w.direct? r = none) {s : (w.opened r).σ}
    (reached : (w.opened r).reader.Reaches (w.opened r).state s) (q : Ref Source) :
    KeepsLock q w ((w.opened r).putBack s) := by
  unfold direct? at h
  unfold opened at s reached ⊢
  generalize w.streams.get r = k at h s reached ⊢
  cases k with
  | direct source => exact nomatch h
  | overFile source layer =>
    have reads := (Feed.pulls_pieces (Chunked.pulls_of_reaches reached)).1
    obtain ⟨n, t, t', before, after, lock⟩ :=
      keepsLock_onItsOwn (s := s.feed.source) (Tower.sameLock_reads reads) q
    exact ⟨n, t, t', before, after, lock⟩
  | overItems items layer => exact keepsLock_of_eq rfl
  | overResponse p layer =>
    have reads := (Feed.pulls_pieces (Chunked.pulls_of_reaches reached)).1
    obtain ⟨n, t, t', before, after, lock⟩ := keepsLock_rawStream (s := s.feed.source) reads q
    refine ⟨n, t, t', before, ?_, lock⟩
    show (markEnded _ p s.feed.supply).sources.get q = _
    rw [sources_markEnded]
    exact after

/-- Reading closes nothing. -/
theorem ReadFrom.keepsLock (h : ReadFrom r w w') (q : Ref Source) : KeepsLock q w w' := by
  obtain ⟨s, reads, rfl⟩ := h
  cases direct : w.direct? r with
  | some source =>
    revert s
    rw [opened_of_direct direct]
    exact fun s reads => keepsLock_onItsOwn (Tower.sameLock_reads reads) q
  | none => exact keepsLock_of_over direct reads.reaches q

/-- Closing a stream closes no source but the one that it is. -/
theorem keepsLock_closeStream {q : Ref Source} (apart : w.direct? r ≠ some q) :
    KeepsLock q w (go (closeStream r) w).2 := by
  rw [go_closeStream]
  cases direct : w.direct? r with
  | some source =>
    have other : q ≠ source := fun same => apart (same ▸ direct)
    rw [opened_of_direct direct]
    exact keepsLock_of_eq (Store.get_set_other other _)
  | none => exact keepsLock_of_over direct (.single (.inr rfl)) q

theorem ReadFrom.direct? (h : ReadFrom r w w') : w'.direct? r = w.direct? r := by
  obtain ⟨s, -, rfl⟩ := h
  exact direct?_putBack s

/-- Reading does not change what closing will be. -/
theorem ReadFrom.closable (h : ReadFrom r w w') : w'.closable r = w.closable r := by
  rw [World.closable, World.closable, h.direct?]
  cases w.direct? r with
  | none => rfl
  | some source =>
    obtain ⟨n, s, s', before, after, lock⟩ := h.keepsLock source
    dsimp only
    rw [before, after]
    exact lock.closable

theorem ReadFrom.closing (h : ReadFrom r w w') : w'.closing r = w.closing r := by
  rw [World.closing, World.closing, h.direct?]
  cases w.direct? r with
  | none => rfl
  | some source =>
    obtain ⟨n, s, s', before, after, lock⟩ := h.keepsLock source
    dsimp only
    rw [before, after]
    exact congrArg _ lock.closing

theorem isClosed_of_direct (h : w.direct? r = some source) :
    w.isClosed r = (w.sources.get source).closed := by
  unfold World.direct? at h
  split at h
  · next found kind =>
    obtain rfl : found = source := Option.some.inj h
    rw [isClosed, kind]
    rfl
  · exact nomatch h

/-- A stream over another one is closed when its layer is. -/
theorem isClosed_closeStream_of_over (h : w.direct? r = none) :
    (go (closeStream r) w).2.isClosed r = true := by
  unfold World.direct? at h
  rw [go_closeStream]
  unfold opened
  generalize w.streams.get r = k at h ⊢
  cases k with
  | direct source => exact nomatch h
  | overFile source layer =>
    unfold isClosed
    rw [show (_ : World).streams.get r = .overFile source _ from Store.get_set_same _ _ _]
    rfl
  | overItems items layer =>
    unfold isClosed
    rw [show (_ : World).streams.get r = .overItems items _ from Store.get_set_same _ _ _]
    rfl
  | overResponse p layer =>
    have again : ((w.assemble r (.overResponse p layer)).putBack
        ((w.assemble r (.overResponse p layer)).reader.close
          (w.assemble r (.overResponse p layer)).state).2).streams.get r =
        .overResponse p ⟨layer.supply, layer.pending, true⟩ := by
      show (markEnded _ p layer.supply).streams.get r = _
      rw [streams_markEnded]
      exact Store.get_set_same _ _ _
    unfold isClosed
    rw [again]

/-- A stream that has a close method is closed by it. -/
theorem isClosed_closeStream (h : w.closable r = true) :
    (go (closeStream r) w).2.isClosed r = true := by
  cases direct : w.direct? r with
  | some source =>
    have again : (go (closeStream r) w).2.direct? r = some source :=
      (direct?_putBack _).trans direct
    have has : Tower.closable _ (w.sources.get source).state = true := by
      rw [World.closable, direct] at h
      exact h
    rw [isClosed_of_direct again, go_closeStream, opened_of_direct direct]
    show Source.closed ((w.sources.set source _).get source) = true
    rw [Store.get_set_same]
    exact Tower.closed_close _ has
  | none => exact isClosed_closeStream_of_over direct

/-! ## What is given out -/

theorem size_rawStream (raw : Option (Ref Source)) (s : (w.rawStream raw).σ) :
    ((w.rawStream raw).putBack s).sources.size = w.sources.size ∧
      ((w.rawStream raw).putBack s).streams.size = w.streams.size := by
  cases raw <;> exact ⟨rfl, rfl⟩

/-- Using a stream makes no stream and no source. -/
theorem size_putBack (s : (w.opened r).σ) :
    ((w.opened r).putBack s).sources.size = w.sources.size ∧
      ((w.opened r).putBack s).streams.size = w.streams.size := by
  unfold opened at s ⊢
  generalize w.streams.get r = k at s ⊢
  cases k with
  | overResponse p layer =>
    obtain ⟨sources, streams⟩ := size_rawStream (w := w) (w.responses.get p).raw s.feed.source
    constructor
    · show (markEnded _ p s.feed.supply).sources.size = _
      rw [sources_markEnded]
      exact sources
    · show (markEnded _ p s.feed.supply).streams.size = _
      rw [streams_markEnded]
      exact streams
  | _ => exact ⟨rfl, rfl⟩

end World
end HttpTap
