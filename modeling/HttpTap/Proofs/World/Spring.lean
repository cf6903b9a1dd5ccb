import HttpTap.Proofs.Reading.Gathering
import HttpTap.Proofs.World.Opened

/-!
# Where chunks come from

A file, a one-pass iterator and the raw stream of a response are read through streams over chunks,
and a new stream goes on where the last one has stopped.  `Spring` names the three, and
`World.Holds w k s` says that in the world `w` the spring `k` is in the state `s`.

One law covers all uses (`Over.onStream`).  A stream over a spring is the stream over chunks of its
feed; whatever is done with that stream, the spring is left in the state of the feed.  The state
outlives the stream, so what happens to a spring over several openings is a sum of what happens to
its feed.

The state knows whether the feed has come to its end.  For a response that is the mark of being
consumed, and a consumed response gives no new stream.
-/

namespace HttpTap

/-- The items up to the first fault. -/
def untilFault : List Item → List Value × Option Fault
  | [] => ([], none)
  | .ok v :: is => (v :: (untilFault is).1, (untilFault is).2)
  | .error f :: _ => ([], some f)

/-- Where the chunks of a body come from that is read once.  A stream of the world is given with the
number of its floors. -/
inductive Spring where
  | file (source : Ref Source) (floors : Nat)
  | items (iterator : Ref (List Item))
  | raw (response : Ref Response) (source : Ref Source) (floors : Nat)

namespace Spring

/-- The states of a spring. -/
def State : Spring → Type
  | file _ n | raw _ _ n => Pulling (Tower n)
  | items _ => List Item

/-- What a stream over the spring pulls. -/
def feed : (k : Spring) → Feed k.State
  | file _ n => .pieces (Tower.reader n)
  | items _ => .items
  | raw _ _ n => .pieces (Tower.reader n)

/-- The state in which a new stream finds the spring. -/
def again : (k : Spring) → k.State → k.State
  | file _ _, s => ⟨s.source, s.size, .live⟩
  | items _, is => is
  | raw _ _ _, s => ⟨s.source, s.size, .live⟩

/-- Is there no new stream over the spring? -/
def Ended : (k : Spring) → k.State → Prop
  | raw _ _ _, s => s.supply = .ended
  | _, _ => False

/-- An opened stream over the spring. -/
def stream : (k : Spring) → Chunked k.State → Stream
  | file source _, c => .overFile source ⟨c.feed.supply, c.pending, c.closed⟩
  | items iterator, c => .overItems iterator ⟨.live, c.pending, c.closed⟩
  | raw response _ _, c => .overResponse response ⟨c.feed.supply, c.pending, c.closed⟩

/-- A stream from which nothing was read yet. -/
def fresh (k : Spring) (s : k.State) : Chunked k.State := ⟨k.again s, [], false⟩

/-- What a new stream gives that is read to its end. -/
def drain (k : Spring) (s : k.State) : Drained k.State := k.feed.gather none (k.again s)

/-- What a new stream is taken that is read up to a limit, and one byte further. -/
def skim (k : Spring) (limit : Int) (s : k.State) : Drained k.State :=
  k.feed.gather (some (limit.toNat + 1)) (k.again s)

/-- Where the spring is left by a capture if it fails: read to its end, and then up to the limit. -/
def captured (k : Spring) (limit : Int) (s : k.State) : k.State :=
  (k.skim limit (k.drain s).rest).rest

/-- What is met by somebody who reads the spring to its end in pieces of this size: values, and the
fault that ended them if one did. -/
def meets : (k : Spring) → Int → k.State → List Value × Option Fault
  | file _ n, size, s | raw _ _ n, size, s =>
    (((Tower.reader n).pieces size s.source).1, ((Tower.reader n).pieces size s.source).2.1)
  | items _, _, is => untilFault is

/-- A spring that has failed gives another stream. -/
theorem not_ended_of_fault {k : Spring} {s : k.State} (failed : (k.drain s).fault ≠ none) :
    ¬ k.Ended (k.drain s).rest := by
  cases k with
  | raw response source n => exact Feed.supply_gather_ne_ended rfl failed
  | _ => exact id

end Spring

namespace World

variable {w w' : World} {k : Spring} {s : k.State} {r : Ref Stream} {c c' : Chunked k.State}

/-- The spring is in this state.  A response has its content still on the wire. -/
def Holds (w : World) : (k : Spring) → k.State → Prop
  | .file source n, s => w.sources.get source = ⟨n, s.source⟩ ∧ s.size = streamChunkSize
  | .items iterator, is => w.iterators.get iterator = is
  | .raw response source n, s =>
    w.sources.get source = ⟨n, s.source⟩ ∧ s.size = streamChunkSize ∧
      (w.responses.get response).raw = some source ∧
      (w.responses.get response).content = .unread ∧
      ((w.responses.get response).consumed = true ↔ s.supply = .ended)

/-- The opened stream is this stream over the spring. -/
structure Over (w : World) (r : Ref Stream) (k : Spring) (c : Chunked k.State) : Prop where
  kind : w.streams.get r = k.stream c
  holds : w.Holds k c.feed

theorem Holds.of_same (h : w.Holds k s) (sources : w'.sources = w.sources)
    (iterators : w'.iterators = w.iterators) (responses : w'.responses = w.responses) :
    w'.Holds k s := by
  cases k with
  | file source n =>
    rw [Holds, sources]
    exact h
  | items iterator =>
    rw [Holds, iterators]
    exact h
  | raw response source n =>
    rw [Holds, sources, responses]
    exact h

/-- A new stream finds the spring as the last one has left it. -/
theorem over_newStream (h : w.Holds k s) (more : ¬ k.Ended s) :
    ({ w with streams := (w.streams.alloc (k.stream (k.fresh s))).2 } : World).Over
      w.streams.next k (k.fresh s) where
  kind := Store.get_alloc_same _ _
  holds := by
    cases k with
    | file source n => exact h
    | items iterator => exact h
    | raw response source n =>
      obtain ⟨sources, size, raw, unread, mark⟩ := h
      refine ⟨sources, size, raw, unread, fun consumed => ?_, fun live => nomatch live⟩
      exact absurd (mark.1 consumed) more

/-- A supply that has ended stays so. -/
theorem supply_pulls_ended {σ : Type} {R : Reader σ} {x y : Pulling σ}
    (pulls : (Feed.pieces R).Pulls x y) (ended : x.supply = .ended) : y.supply = .ended := by
  induction pulls with
  | refl => exact ended
  | @tail y z _ step ih =>
    subst step
    obtain ⟨source, size, supply⟩ := y
    obtain rfl : supply = .ended := ih
    rfl

/-- A source on its own, if its state is known. -/
theorem onItsOwn_of_get {source : Ref Source} {n : Nat} {t : Tower n}
    (h : w.sources.get source = ⟨n, t⟩) :
    w.onItsOwn source = ⟨Tower.reader n, t, fun t' =>
      noteCalls { w with sources := w.sources.set source ⟨n, t'⟩ }
        ((Tower.reader n).calls t).length ((Tower.reader n).calls t')⟩ := by
  rw [onItsOwn, h]

theorem onStream_of_opened {α : Type} {x : α} {a : Assembled} (opened : w.opened r = a)
    {use : {σ : Type} → Reader σ → σ → α × σ} {t : a.σ} (used : use a.reader a.state = (x, t)) :
    w.onStream r use = (x, a.putBack t) := by
  subst opened
  rw [World.onStream]
  simp only [used]

/-- Using a source on its own, if its state is known. -/
theorem onSource_of_get {α : Type} {x : α} {source : Ref Source} {n : Nat} {t t' : Tower n}
    (h : w.sources.get source = ⟨n, t⟩) (use : {σ : Type} → Reader σ → σ → α × σ)
    (used : use (Tower.reader n) t = (x, t')) : ∃ w', w.onSource source use = (x, w') := by
  have found := onItsOwn_of_get h
  refine ⟨(w.onSource source use).2, Prod.ext ?_ rfl⟩
  show (use (w.onItsOwn source).reader (w.onItsOwn source).state).1 = x
  rw [found, used]

/-- Using a stream over a spring is using the stream over the chunks of its feed. -/
theorem Over.onStream {α : Type} {x : α} (h : w.Over r k c)
    (use : {σ : Type} → Reader σ → σ → α × σ) (used : use (Chunked.reader k.feed) c = (x, c'))
    (pulls : k.feed.Pulls c.feed c'.feed) :
    ∃ w', w.onStream r use = (x, w') ∧ w'.Over r k c' := by
  obtain ⟨kind, holds⟩ := h
  cases k with
  | file source n =>
    obtain ⟨⟨t, size, supply⟩, pending, closed⟩ := c
    obtain ⟨sources, rfl⟩ := holds
    have opened : w.opened r = inPieces (w.onItsOwn source) ⟨supply, pending, closed⟩ fun layer w =>
        { w with streams := w.streams.set r (.overFile source layer) } := by
      rw [World.opened, kind]
      rfl
    rw [onItsOwn_of_get sources] at opened
    exact ⟨_, onStream_of_opened opened used, Store.get_set_same _ _ _, Store.get_set_same _ _ _,
      (Feed.pulls_pieces pulls).2⟩
  | items iterator =>
    obtain ⟨is, pending, closed⟩ := c
    obtain rfl : w.iterators.get iterator = is := holds
    have opened : w.opened r = w.assemble r (.overItems iterator ⟨.live, pending, closed⟩) := by
      rw [World.opened, kind]
      rfl
    exact ⟨_, onStream_of_opened opened used, Store.get_set_same _ _ _, Store.get_set_same _ _ _⟩
  | raw response source n =>
    obtain ⟨⟨t, size, supply⟩, pending, closed⟩ := c
    obtain ⟨sources, rfl, raw, unread, mark⟩ := holds
    have opened : w.opened r = inPieces (w.rawStream (w.responses.get response).raw)
        ⟨supply, pending, closed⟩ fun layer w =>
          markEnded { w with streams := w.streams.set r (.overResponse response layer) } response
            layer.supply := by
      rw [World.opened, kind]
      rfl
    have found : w.rawStream (some source) = _ := onItsOwn_of_get sources
    rw [raw, found] at opened
    -- the parts are back in their places, and the response may be marked
    set w' : World := noteCalls { w with sources := w.sources.set source ⟨n, c'.feed.source⟩ }
      ((Tower.reader n).calls t).length ((Tower.reader n).calls c'.feed.source)
    set w'' : World := { w' with
      streams := w'.streams.set r ((Spring.raw response source n).stream c') }
    refine ⟨w''.markEnded response c'.feed.supply, onStream_of_opened opened used, ?_, ?_⟩
    · rw [streams_markEnded]
      exact Store.get_set_same _ _ _
    · have marked := get_markEnded w'' response response c'.feed.supply
      refine ⟨?_, (Feed.pulls_pieces pulls).2, marked.raw.trans raw, marked.content.trans unread, ?_⟩
      · rw [sources_markEnded]
        exact Store.get_set_same _ _ _
      · by_cases ended : c'.feed.supply = .ended
        · rw [markEnded, if_pos ended]
          exact iff_of_true (by rw [Store.get_set_same]) ended
        · rw [markEnded, if_neg ended]
          refine iff_of_false (fun consumed => ?_) ended
          exact ended (supply_pulls_ended pulls (mark.1 consumed))

end World
end HttpTap
