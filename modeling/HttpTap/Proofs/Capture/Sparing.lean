import HttpTap.Proofs.Capture.Held
import HttpTap.Proofs.Span.Telling

/-!
# What a capture draws on

A body that can be read only once comes from somewhere: a file, an iterator, the raw stream of a
response.  This is its `Origin`, and a body that is held has none.  To read a body is to draw on its
origin, and `World.Spares o` says that nothing was drawn on but the origin `o`: every other source
and iterator stands where it stood, and no other response was marked or loaded.

A capture opens streams over the entity and over a copy in memory.  What ties a stream to an origin
(`World.Tied`) survives whatever is done with the stream, so a capture spares everything but the
origin of the entity (`spares_makeRepeatable`, `spares_readBody`).
-/

namespace HttpTap

/-- What the bytes of a body are drawn from, if they are not in memory. -/
inductive Origin where
  | memory
  | file (source : Ref Source)
  | items (items : Ref (List Item))
  /-- The raw stream of a response. -/
  | raw (p : Ref Response)

namespace World

/-- Does the origin draw on the source? -/
def Taps (w : World) : Origin → Ref Source → Prop
  | .file source, s => source = s
  | .raw p, s => (w.responses.get p).raw = some s
  | .memory, _ | .items _, _ => False

/-- Nothing was drawn on but the origin. -/
structure Spares (o : Origin) (w w' : World) : Prop where
  sources : ∀ s, w.sources.Has s → ¬ w.Taps o s → w'.sources.get s = w.sources.get s
  sources_le : w.sources.size ≤ w'.sources.size
  iterators : ∀ items, o ≠ .items items → w'.iterators.get items = w.iterators.get items
  responses : ∀ p, o ≠ .raw p → w'.responses.get p = w.responses.get p
  raw : ∀ p, (w'.responses.get p).raw = (w.responses.get p).raw

end World

/-- The stream draws on the origin, or on a source that the world does not have. -/
def Stream.Over (w : World) (o : Origin) : Stream → Prop
  | .direct source => ¬ w.sources.Has source
  | .overFile source _ => o = .file source
  | .overItems items _ => o = .items items
  | .overResponse p _ => o = .raw p

/-- Nothing was drawn on but the origin, and the stream draws on nothing else either. -/
structure World.Tied (o : Origin) (w : World) (r : Ref Stream) (w' : World) : Prop
    extends World.Spares o w w' where
  entities : w'.entities = w.entities
  origin : (w'.streams.get r).Over w o

/-- The origin of the body of a request. -/
def Body.origin : Body → Origin
  | .file source => .file source
  | .iterator items => .items items
  | .absent | .bytes _ | .buffer _ | .text _ | .value _ => .memory

/-- The origin of the content of a response. -/
def World.contentOrigin (w : World) (p : Ref Response) : Origin :=
  if (w.responses.get p).content.isHeld then .memory else .raw p

/-- The origin of an entity that adapts a request or a response, or is held. -/
def Entity.origin? (w : World) : Entity → Option Origin
  | .stored .. => some .memory
  | .requestBody _ body _ _ => some body.origin
  | .responseBody p _ _ => some (w.contentOrigin p)
  | .once .. | .scripted _ => none

namespace World

open Act

variable {w w' w'' : World} {o : Origin} {r : Ref Stream} {e : Ref Entity} {x : Entity}

theorem Untouched.spares (h : w.Untouched w') (o : Origin) : w.Spares o w' where
  sources s has _ := h.sources.get_eq s has
  sources_le := h.sources.size_le
  iterators _ _ := by rw [h.iterators]
  responses _ _ := by rw [h.responses]
  raw _ := by rw [h.responses]

/-- Where sources, iterators and responses are as they were, nothing was drawn on at all. -/
theorem spares_of_same (sources : w'.sources = w.sources) (iterators : w'.iterators = w.iterators)
    (responses : w'.responses = w.responses) : w.Spares o w' where
  sources _ _ _ := by rw [sources]
  sources_le := Nat.le_of_eq (congrArg Store.size sources.symm)
  iterators _ _ := by rw [iterators]
  responses _ _ := by rw [responses]
  raw _ := by rw [responses]

/-- What was not drawn on at all was not drawn on beyond the origin. -/
theorem Spares.of_memory (h : w.Spares .memory w') (o : Origin) : w.Spares o w' where
  sources s has _ := h.sources s has id
  sources_le := h.sources_le
  iterators items _ := h.iterators items Origin.noConfusion
  responses p _ := h.responses p Origin.noConfusion
  raw := h.raw

theorem Taps.iff_of_raw (raw : ∀ p, (w'.responses.get p).raw = (w.responses.get p).raw) (o : Origin)
    (s : Ref Source) : w'.Taps o s ↔ w.Taps o s := by
  cases o with
  | raw p =>
    show (w'.responses.get p).raw = some s ↔ (w.responses.get p).raw = some s
    rw [raw]
  | _ => rfl

theorem Spares.trans (h : w.Spares o w') (h' : w'.Spares o w'') : w.Spares o w'' where
  sources s has other :=
    (h'.sources s (Nat.lt_of_lt_of_le has h.sources_le)
      (mt (Taps.iff_of_raw h.raw o s).1 other)).trans (h.sources s has other)
  sources_le := Nat.le_trans h.sources_le h'.sources_le
  iterators items other := (h'.iterators items other).trans (h.iterators items other)
  responses p other := (h'.responses p other).trans (h.responses p other)
  raw p := (h'.raw p).trans (h.raw p)

instance (o : Origin) : IsPreorder World (Spares o) where
  refl w := (Untouched.refl w).spares o
  trans _ _ _ := .trans

/-! ## Streams -/

/-- Putting back a source that the origin draws on, or that is new, spares all others. -/
theorem spares_set_source {source : Ref Source} (h : w.Spares o w')
    (drawn : ¬ w.sources.Has source ∨ w.Taps o source) (s : Source) :
    w.Spares o { w' with sources := w'.sources.set source s } where
  sources q has other := by
    have apart : q ≠ source := by
      rintro rfl
      exact drawn.elim (fun fresh => fresh has) other
    exact (Store.get_set_other apart s).trans (h.sources q has other)
  sources_le := h.sources_le
  iterators := h.iterators
  responses := h.responses
  raw := h.raw

theorem spares_rawStream {raw : Option (Ref Source)} (h : w.Spares o w')
    (drawn : ∀ source, raw = some source → w.Taps o source) (s : (w'.rawStream raw).σ) :
    w.Spares o ((w'.rawStream raw).putBack s) := by
  cases raw with
  | none => exact h
  | some source =>
    have put := spares_set_source h (.inr (drawn source rfl)) ⟨(w'.sources.get source).floors, s⟩
    exact ⟨put.sources, put.sources_le, put.iterators, put.responses, put.raw⟩

theorem entities_rawStream (w : World) (raw : Option (Ref Source)) (s : (w.rawStream raw).σ) :
    ((w.rawStream raw).putBack s).entities = w.entities := by
  cases raw <;> rfl

/-- Changing a response that keeps its raw stream spares all others. -/
theorem spares_set_response (w : World) (p : Ref Response) {x : Response}
    (same : x.raw = (w.responses.get p).raw) :
    w.Spares (.raw p) { w with responses := w.responses.set p x } where
  sources _ _ _ := rfl
  sources_le := Nat.le_refl _
  iterators _ _ := rfl
  responses q other := Store.get_set_other (fun same : q = p => other (same ▸ rfl)) _
  raw q := by
    by_cases this : q = p
    · subst this
      show ((w.responses.set q x).get q).raw = _
      rw [Store.get_set_same]
      exact same
    · show ((w.responses.set p x).get q).raw = _
      rw [Store.get_set_other this]

theorem spares_markEnded {p : Ref Response} (h : w.Spares (.raw p) w') (supply : Supply) :
    w.Spares (.raw p) (w'.markEnded p supply) := by
  unfold markEnded
  split
  · exact h.trans (spares_set_response w' p rfl)
  · exact h

/-- A stream stays tied to its origin, whatever is done with it. -/
theorem Tied.putBack (h : w.Tied o r w') (s : (w'.opened r).σ) :
    w.Tied o r ((w'.opened r).putBack s) := by
  obtain ⟨spares, entities, origin⟩ := h
  unfold opened at s ⊢
  generalize kind : w'.streams.get r = k at s origin ⊢
  cases k with
  | direct source =>
    have fresh : ¬ w.sources.Has source := origin
    have put := spares_set_source spares (.inl fresh) ⟨(w'.sources.get source).floors, s⟩
    refine ⟨⟨put.sources, put.sources_le, put.iterators, put.responses, put.raw⟩, entities, ?_⟩
    show (w'.streams.get r).Over w o
    rw [kind]
    exact origin
  | overFile source layer =>
    obtain rfl : o = .file source := origin
    have put := spares_set_source spares (.inr rfl)
      ⟨(w'.sources.get source).floors, s.feed.source⟩
    refine ⟨⟨put.sources, put.sources_le, put.iterators, put.responses, put.raw⟩, entities, ?_⟩
    show ((w'.streams.set r _).get r).Over w _
    rw [Store.get_set_same]
    exact rfl
  | overItems items layer =>
    obtain rfl : o = .items items := origin
    refine ⟨⟨spares.sources, spares.sources_le, fun other apart => ?_, spares.responses,
      spares.raw⟩, entities, ?_⟩
    · have unlike : other ≠ items := fun same => apart (same ▸ rfl)
      exact (Store.get_set_other unlike _).trans (spares.iterators other apart)
    · show ((w'.streams.set r _).get r).Over w _
      rw [Store.get_set_same]
      exact rfl
  | overResponse p layer =>
    obtain rfl : o = .raw p := origin
    have drawn (source : Ref Source) (is_raw : (w'.responses.get p).raw = some source) :
        w.Taps (.raw p) source := (spares.raw p).symm.trans is_raw
    have put := spares_rawStream spares drawn s.feed.source
    have kept := entities_rawStream w' (w'.responses.get p).raw s.feed.source
    have shape : (w'.assemble r (.overResponse p layer)).putBack s =
        markEnded { (w'.rawStream (w'.responses.get p).raw).putBack s.feed.source with
          streams := ((w'.rawStream (w'.responses.get p).raw).putBack s.feed.source).streams.set r
            (.overResponse p ⟨s.feed.supply, s.pending, s.closed⟩) } p s.feed.supply := rfl
    rw [shape]
    generalize (w'.rawStream (w'.responses.get p).raw).putBack s.feed.source = v at put kept
    have layered : w.Spares (.raw p) { v with streams := v.streams.set r (.overResponse p
        ⟨s.feed.supply, s.pending, s.closed⟩) } :=
      ⟨put.sources, put.sources_le, put.iterators, put.responses, put.raw⟩
    refine ⟨spares_markEnded layered s.feed.supply, ?_, ?_⟩
    · unfold markEnded
      split <;> exact kept.trans entities
    · rw [streams_markEnded]
      show ((v.streams.set r _).get r).Over w _
      rw [Store.get_set_same]
      exact rfl

/-! ## Opening -/

/-- A new stream that draws on the origin. -/
theorem tied_newStream {s : Stream} (origin : s.Over w o) :
    w.Tied o w.streams.next { w with streams := (w.streams.alloc s).2 } where
  toSpares := ⟨fun _ _ _ => rfl, Nat.le_refl _, fun _ _ => rfl, fun _ _ => rfl, fun _ => rfl⟩
  entities := rfl
  origin := by
    rw [Store.get_alloc_same]
    exact origin

/-- A new stream over a new source. -/
theorem tied_openSource (s : Source) (w : World) (o : Origin) :
    w.Tied o w.streams.next (go (openSource s) w).2 where
  toSpares := (private_openSource s w).untouched.spares o
  entities := rfl
  origin := by
    rw [show (go (openSource s) w).2.streams.get w.streams.next = .direct w.sources.next from
      Store.get_alloc_same _ _]
    exact Store.not_has_next _

/-- The action draws on the origin alone, and so does the stream that it opens, if it opens one. -/
def OpensOver (w : World) (o : Origin) (a : Act (Ref Stream)) : Prop :=
  (∃ r w', go a w = (.ok r, w') ∧ w.Tied o r w') ∨ ∃ f, go a w = (.error f, w)

theorem opensOver_openSource (s : Source) (w : World) (o : Origin) :
    w.OpensOver o (openSource s) := .inl ⟨_, _, rfl, tied_openSource s w o⟩

theorem opensOver_newStream {s : Stream} (origin : s.Over w o) : w.OpensOver o (newStream s) :=
  .inl ⟨_, _, rfl, tied_newStream origin⟩

theorem opensOver_openBody (w : World) (body : Body) : w.OpensOver body.origin (openBody body) := by
  have items (v : Value) : w.OpensOver .memory (do openSource (.ofItems (← lift (iterate v)))) := by
    cases gone : iterate v with
    | error f => exact .inr ⟨f, by rw [go_bind, go_lift]⟩
    | ok is => exact opensOver_openSource (.ofItems is) w .memory
  cases body with
  | absent => exact items .null
  | bytes bs => exact opensOver_openSource _ w .memory
  | buffer bs => exact opensOver_openSource _ w .memory
  | text s => exact opensOver_openSource _ w .memory
  | file source => exact opensOver_newStream rfl
  | iterator it => exact opensOver_newStream rfl
  | value v => exact items v

theorem opensOver_openResponse (w : World) (p : Ref Response) :
    w.OpensOver (w.contentOrigin p) (openResponse p) := by
  rw [OpensOver, openResponse, go_bind, go_view, contentOrigin]
  dsimp only
  cases content : (w.responses.get p).content with
  | held v =>
    dsimp only
    split
    · split
      · exact opensOver_openSource _ w _
      · exact .inr ⟨_, rfl⟩
    · exact opensOver_openSource _ w _
  | unread =>
    dsimp only
    split
    · exact .inr ⟨_, rfl⟩
    · exact opensOver_newStream rfl

/-- An entity opens over its origin, or not at all. -/
theorem opensOver_openContent (hx : w.entities.get e = x) (origin : x.origin? w = some o) :
    w.OpensOver o (openContent e) := by
  cases x with
  | stored t bs type encoding =>
    rw [OpensOver, go_openContent_stored hx]
    exact opensOver_openSource _ w o
  | once stream consumed length type encoding => exact nomatch origin
  | requestBody q body type encoding =>
    obtain rfl : body.origin = o := Option.some.inj origin
    rw [OpensOver, go_openContent_requestBody hx]
    exact opensOver_openBody w body
  | responseBody p type encoding =>
    obtain rfl : w.contentOrigin p = o := Option.some.inj origin
    rw [OpensOver, go_openContent_responseBody hx]
    exact opensOver_openResponse w p
  | scripted s => exact nomatch origin

end World

namespace Act

open World

variable {w w' : World} {o : Origin} {r : Ref Stream} {e : Ref Entity} {x : Entity}

/-! ## Buffering -/

theorem tied_drainStream (w : World) (o : Origin) (r : Ref Stream) (chunk : Int) :
    Keeps (Preserves (w.Tied o r)) (drainStream r chunk) := fun _ h => h.putBack _

theorem tied_closeStream (w : World) (o : Origin) (r : Ref Stream) :
    Keeps (Preserves (w.Tied o r)) (closeStream r) := fun _ h => h.putBack _

/-- Buffering the content of an entity draws on its origin and makes no entity. -/
theorem spares_bufferContent (hx : w.entities.get e = x) (origin : x.origin? w = some o)
    (chunk : Int) : w.Spares o (go (bufferContent e chunk) w).2 ∧
      (go (bufferContent e chunk) w).2.entities = w.entities := by
  rw [bufferContent, go_bind, go_observe]
  rcases opensOver_openContent hx origin with ⟨r, w₁, opened, tied⟩ | ⟨f, failed⟩
  · rw [opened]
    dsimp only
    have after (a : Act (Bytes × Option Fault)) (kept : Keeps (Preserves (w.Tied o r)) a) :
        w.Spares o (go a w₁).2 ∧ (go a w₁).2.entities = w.entities :=
      ⟨(kept w₁ tied).toSpares, (kept w₁ tied).entities⟩
    refine after _ ((tied_drainStream w o r chunk).bind fun drained => ?_)
    refine (tied_closeStream w o r).observe.bind fun closed => ?_
    cases closed <;> exact keeps_pure _
  · rw [failed]
    exact ⟨(Untouched.refl w).spares o, rfl⟩

theorem not_scripted_of_origin (origin : x.origin? w = some o) : x.isScripted = false := by
  cases x with
  | scripted s => exact nomatch origin
  | _ => rfl

/-- Replacing an entity draws on nothing. -/
theorem spares_replaceEntity (hx : w.entities.get e = x) (own : x.isScripted = false) (data : Bytes)
    (o : Origin) : w.Spares o (go (replaceEntity e data) w).2 := by
  rw [replaceEntity, go_bind_of_ok (go_contentType hx own),
    go_bind_of_ok (go_contentEncoding hx own)]
  exact spares_of_same rfl rfl rfl

/-- Making an entity repeatable draws on its origin alone. -/
theorem spares_makeRepeatable (hx : w.entities.get e = x) (origin : x.origin? w = some o)
    (chunk : Int) : w.Spares o (go (makeRepeatable e chunk) w).2 := by
  have own := not_scripted_of_origin origin
  rw [makeRepeatable, go_bind_of_ok (go_repeatable hx own)]
  split
  · exact (Untouched.refl w).spares o
  · obtain ⟨spares, entities⟩ := spares_bufferContent hx origin chunk
    rw [go_bind]
    generalize go (bufferContent e chunk) w = ran at spares entities
    obtain ⟨_ | ⟨data, fault⟩, w₁⟩ := ran
    · exact spares
    · cases fault with
      | none =>
        have kept : w₁.entities.get e = x := by
          rw [show w₁.entities = w.entities from entities]
          exact hx
        exact spares.trans (spares_replaceEntity kept own data o)
      | some f =>
        dsimp only
        split
        · exact spares
        · exact spares.trans (spares_of_same rfl rfl rfl)

/-- Preparing an entity draws on its origin alone. -/
theorem spares_prepareEntity (hx : w.entities.get e = x) (origin : x.origin? w = some o)
    (chunk : Int) : w.Spares o (go (prepareEntity e chunk) w).2 := by
  have own := not_scripted_of_origin origin
  have length := go_contentLength hx own
  rw [prepareEntity]
  cases declared : w.lengthOf x with
  | error f =>
    rw [declared] at length
    rw [go_bind_of_error length]
    exact (Untouched.refl w).spares o
  | ok v =>
    rw [declared] at length
    rw [go_bind_of_ok length]
    split
    · exact (Untouched.refl w).spares o
    · rw [go_bind_of_ok (go_repeatable hx own)]
      split
      · exact (Untouched.refl w).spares o
      · have spares := spares_makeRepeatable hx origin chunk
        rw [go_bind]
        generalize go (makeRepeatable e chunk) w = ran at spares
        obtain ⟨_ | result, w₁⟩ := ran <;> exact spares

/-! ## Reading -/

/-- Reading a prepared entity draws on its origin alone. -/
theorem spares_readBody {p : Prepared} (hx : w.entities.get p.entity = x)
    (origin : x.origin? w = some o) (limit : Int) : w.Spares o (go (readBody limit p) w).2 := by
  have inner : w.Spares o (go (do
      let read ← closing (openContent p.entity) fun r => readBounded r limit readChunkSize
      lift (capturedBody limit p.declared p.observed read)) w).2 := by
    rw [closing, bind_assoc]
    rcases opensOver_openContent hx origin with ⟨r, w₁, opened, tied⟩ | ⟨f, failed⟩
    · rw [go_bind_of_ok opened]
      have bounded : Keeps (Preserves (w.Tied o r)) (readBounded r limit readChunkSize) :=
        fun _ h => h.putBack _
      have read := (bounded.ensuring (tied_closeStream w o r)).bind fun read =>
        keeps_lift (capturedBody limit p.declared p.observed read)
      exact (read w₁ tied).toSpares
    · rw [go_bind_of_error failed]
      exact (Untouched.refl w).spares o
  rw [readBody, go_attempt]
  generalize go _ w = ran at inner ⊢
  obtain ⟨f | body, w₁⟩ := ran
  · dsimp only
    split
    · exact inner
    · exact inner.trans (spares_of_same rfl rfl rfl)
  · exact inner

end Act
end HttpTap
