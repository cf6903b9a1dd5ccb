import HttpTap.World.Basic

/-!
# Using shared streams

An opened stream may read from an object that others read from as well: a file, an iterator, the
raw stream of a response.  To use it, the stream is put together from the parts that the world
holds, used as a `Reader`, and its parts are put back.  `Assembled` is such a stream: the reader,
its state now, and the world that a later state leads to.  `World.opened` says how the streams of
each kind are put together, and `onStream` is the round trip, for any use that works for every
reader; whatever the use, it cannot touch any other object.

The calls that stand-ins have seen meanwhile are added to the trace.  And when the raw stream of a
response comes to its end under a stream over chunks, the response is marked as consumed.
-/

namespace HttpTap

/-- A stream put together from parts of the world. -/
structure Assembled where
  {σ : Type}
  reader : Reader σ
  /-- The state that the parts add up to. -/
  state : σ
  /-- The world with the parts of another state in their places. -/
  putBack : σ → World

/-- A stream that is not there: every read fails in the same way. -/
def Reader.missing (f : Fault) : Reader Unit where
  read _ s := (.error f, s)
  into _ s := (.error f, s)
  close s := (.ok (), s)
  weight _ := 0
  calls _ := []
  paid _ _ := Nat.le_refl _

namespace World

/-- Add the calls that are new since there were `old` many. -/
def noteCalls (w : World) (old : Nat) (calls : List Call) : World :=
  { w with trace := (calls.take (calls.length - old)).map Event.stream ++ w.trace }

/-- A source on its own. -/
def onItsOwn (w : World) (r : Ref Source) : Assembled where
  reader := Tower.reader (w.sources.get r).floors
  state := (w.sources.get r).state
  putBack s :=
    let reader := Tower.reader (w.sources.get r).floors
    noteCalls { w with sources := w.sources.set r ⟨(w.sources.get r).floors, s⟩ }
      (reader.calls (w.sources.get r).state).length (reader.calls s)

/-- A stream over the pieces of another one.  The layer is what it keeps for itself; `keep` says
where a later layer goes. -/
def inPieces (a : Assembled) (layer : Layer) (keep : Layer → World → World) : Assembled where
  reader := Chunked.reader (.pieces a.reader)
  state := ⟨⟨a.state, streamChunkSize, layer.supply⟩, layer.pending, layer.closed⟩
  putBack c := keep ⟨c.feed.supply, c.pending, c.closed⟩ (a.putBack c.feed.source)

/-- The fault of a response without a raw stream. -/
def noRaw : Fault := .noMember "NoneType" "read"

/-- A raw stream, which may be missing. -/
def rawStream (w : World) : Option (Ref Source) → Assembled
  | some source => w.onItsOwn source
  | none => ⟨.missing noRaw, (), fun _ => w⟩

/-- Mark a response as consumed if its supply has come to its end. -/
def markEnded (w : World) (p : Ref Response) (supply : Supply) : World :=
  if supply = .ended then
    { w with responses := w.responses.set p { w.responses.get p with consumed := true } }
  else w

/-- An opened stream of a kind. -/
def assemble (w : World) (r : Ref Stream) : Stream → Assembled
  | .direct source => w.onItsOwn source
  | .overFile source layer =>
    inPieces (w.onItsOwn source) layer fun layer w =>
      { w with streams := w.streams.set r (.overFile source layer) }
  | .overItems items layer =>
    { reader := Chunked.reader .items
      state := ⟨w.iterators.get items, layer.pending, layer.closed⟩
      putBack := fun c =>
        { w with
          iterators := w.iterators.set items c.feed
          streams := w.streams.set r
            (.overItems items { layer with pending := c.pending, closed := c.closed }) } }
  | .overResponse response layer =>
    inPieces (w.rawStream (w.responses.get response).raw) layer fun layer w =>
      markEnded { w with streams := w.streams.set r (.overResponse response layer) } response
        layer.supply

/-- An opened stream. -/
def opened (w : World) (r : Ref Stream) : Assembled := w.assemble r (w.streams.get r)

/-- Use an opened stream. -/
def onStream {α : Type} (w : World) (r : Ref Stream)
    (use : {σ : Type} → Reader σ → σ → α × σ) : α × World :=
  let a := w.opened r
  let (result, state) := use a.reader a.state
  (result, a.putBack state)

/-- Use a source on its own. -/
def onSource {α : Type} (w : World) (r : Ref Source)
    (use : {σ : Type} → Reader σ → σ → α × σ) : α × World :=
  let a := w.onItsOwn r
  let (result, state) := use a.reader a.state
  (result, a.putBack state)

/-- Is a stream closed? -/
def isClosed (w : World) (r : Ref Stream) : Bool :=
  match w.streams.get r with
  | .direct source => let s := w.sources.get source; Tower.closed s.floors s.state
  | .overFile _ layer | .overItems _ layer | .overResponse _ layer => layer.closed

/-- Is a stream a stand-in itself? -/
def isStandIn (w : World) (r : Ref Stream) : Bool :=
  match w.streams.get r with
  | .direct source =>
    match w.sources.get source with
    | ⟨0, .standIn _⟩ => true
    | _ => false
  | _ => false

end World

namespace Act

/-- Use an opened stream. -/
def onStream {α : Type} (r : Ref Stream) (use : {σ : Type} → Reader σ → σ → α × σ) : Act α :=
  ofRun fun w =>
    let (result, w) := w.onStream r use
    (.ok result, w)

/-- Use an opened stream in a way that may fail. -/
def useStream {α : Type} (r : Ref Stream)
    (use : {σ : Type} → Reader σ → σ → Except Fault α × σ) : Act α :=
  ofRun fun w => w.onStream r use

/-- One read. -/
def readStream (r : Ref Stream) (size : Int) : Act Value :=
  useStream r fun reader => reader.read size

/-- Close a stream. -/
def closeStream (r : Ref Stream) : Act Unit := useStream r fun reader => reader.close

/-- Read a stream to its end into a buffer.  Says what was read even if it ended in a fault. -/
def drainStream (r : Ref Stream) (chunk : Int) : Act (Bytes × Option Fault) :=
  onStream r fun reader s =>
    let d := reader.drain chunk s
    ((d.data, d.fault), d.rest)

/-- Read at most `limit` bytes. -/
def readBounded (r : Ref Stream) (limit chunk : Int) : Act BoundedRead :=
  useStream r fun reader => reader.readBounded limit chunk

/-- A new stream on its own. -/
def newSource (s : Source) : Act (Ref Source) :=
  ofRun fun w =>
    let (r, sources) := w.sources.alloc s
    (.ok r, { w with sources := sources })

/-- A new opened stream. -/
def newStream (s : Stream) : Act (Ref Stream) :=
  ofRun fun w =>
    let (r, streams) := w.streams.alloc s
    (.ok r, { w with streams := streams })

/-- Open a new stream on its own. -/
def openSource (s : Source) : Act (Ref Stream) := do
  newStream (.direct (← newSource s))

/-- Open a stream, use it, and close it whatever happens. -/
def closing {α : Type} (opening : Act (Ref Stream)) (use : Ref Stream → Act α) : Act α := do
  let r ← opening
  ensuring (use r) (closeStream r)

end Act
end HttpTap
