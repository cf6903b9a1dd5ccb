import HttpTap.Proofs.Entity.Consulting

/-!
# What an entity offers

`World.Uses e` relates a world to the worlds that lie ahead when nothing is done but reading the
members of the entity `e`, opening it, and reading and closing streams.  It is what "however often"
and "in whatever order" mean in a statement about one entity.

An entity is *steady* (`World.Steady`) when along the way its flag is always the same and none of
its descriptions fails.  It *offers* a byte string (`World.Offers`) when besides its content opens,
however often its members were read before, as a stream that serves these bytes.  The split into
reads is the stream's own affair, and how large a read it has room for is a part of the statement.

A stand-in may or may not be steady; every other entity is (`steady_of_get`), and opening is the
only thing that can change it.  So a read-once entity offers what its stream serves
(`offers_once`), and bytes in memory offer themselves for ever (`offers_stored`).
-/

namespace HttpTap
namespace World

open Act

variable {w w' w'' : World} {e : Ref Entity} {rep : Bool} {c : Bytes} {most : Int}

/-! ## Uses of an entity -/

/-- A member of the entity is read. -/
inductive Look (e : Ref Entity) : World → World → Prop
  | length (w : World) : Look e w (go (contentLength e) w).2
  | repeatable (w : World) : Look e w (go (repeatable e) w).2
  | type (w : World) : Look e w (go (contentType e) w).2
  | encoding (w : World) : Look e w (go (contentEncoding e) w).2

/-- A member is read, the content is opened, or streams are read and closed. -/
inductive Use (e : Ref Entity) : World → World → Prop
  | look {w w' : World} (h : Look e w w') : Use e w w'
  | opening (w : World) : Use e w (go (openContent e) w).2
  | reading {w w' : World} (h : w.Drawn w') : Use e w w'

/-- Members of the entity are read, any number of times. -/
def Looks (e : Ref Entity) : World → World → Prop := Relation.ReflTransGen (Look e)

/-- The entity is used, in any way and any number of times. -/
def Uses (e : Ref Entity) : World → World → Prop := Relation.ReflTransGen (Use e)

theorem Look.uses (h : Look e w w') : Uses e w w' := .single (.look h)

theorem Looks.uses (h : Looks e w w') : Uses e w w' :=
  Relation.ReflTransGen.mono (fun _ _ step => .look step) _ _ h

theorem Use.consulted (h : Use e w w') : w.Consulted w' := by
  cases h with
  | look h =>
    cases h with
    | length => exact keeps_contentLength e w
    | repeatable => exact keeps_repeatable e w
    | type => exact keeps_contentType e w
    | encoding => exact keeps_contentEncoding e w
  | opening => exact keeps_openContent e w
  | reading h => exact h.consulted

/-- Using an entity is consulting it. -/
theorem Uses.consulted (h : Uses e w w') : w.Consulted w' := by
  induction h with
  | refl => exact refl_of Consulted w
  | tail _ step ih => exact ih.trans step.consulted

/-! ## Steady entities and what they offer -/

/-- The entity declares an integer as its length. -/
def Declares (w : World) (e : Ref Entity) (d : Int) : Prop :=
  ∃ v, (go (contentLength e) w).1 = .ok v ∧ v.integer? = some d

/-- However the entity is used, its flag stays the same and its descriptions can be read. -/
structure Steady (w : World) (e : Ref Entity) (rep : Bool) : Prop where
  repeatable : ∀ w', Uses e w w' → ∃ v, (go (repeatable e) w').1 = .ok v ∧ v.truthy = rep
  type : ∀ w', Uses e w w' → ∃ v, (go (contentType e) w').1 = .ok v
  encoding : ∀ w', Uses e w w' → ∃ v, (go (contentEncoding e) w').1 = .ok v

/-- The entity is steady and opens as a stream that serves `c` to reads of at most `most` bytes. -/
structure Offers (w : World) (most : Int) (e : Ref Entity) (rep : Bool) (c : Bytes) : Prop
    extends Steady w e rep where
  opens : ∀ w', Looks e w w' →
    ∃ r w'', go (openContent e) w' = (.ok r, w'') ∧ w''.Serves most r c

/-- A reading of the flag. -/
theorem Steady.go_repeatable (h : w.Steady e rep) :
    ∃ v w', go (Act.repeatable e) w = (.ok v, w') ∧ v.truthy = rep ∧ Look e w w' := by
  obtain ⟨v, hv, flag⟩ := h.repeatable w .refl
  exact ⟨v, _, Prod.ext hv rfl, flag, .repeatable w⟩

/-- A reading of the type. -/
theorem Steady.go_contentType (h : w.Steady e rep) :
    ∃ v w', go (contentType e) w = (.ok v, w') ∧ Look e w w' := by
  obtain ⟨v, hv⟩ := h.type w .refl
  exact ⟨v, _, Prod.ext hv rfl, .type w⟩

/-- A reading of the encoding. -/
theorem Steady.go_contentEncoding (h : w.Steady e rep) :
    ∃ v w', go (contentEncoding e) w = (.ok v, w') ∧ Look e w w' := by
  obtain ⟨v, hv⟩ := h.encoding w .refl
  exact ⟨v, _, Prod.ext hv rfl, .encoding w⟩

theorem Steady.later (h : w.Steady e rep) (uses : Uses e w w') : w'.Steady e rep where
  repeatable w'' later := h.repeatable w'' (uses.trans later)
  type w'' later := h.type w'' (uses.trans later)
  encoding w'' later := h.encoding w'' (uses.trans later)

theorem Offers.later (h : w.Offers most e rep c) (looks : Looks e w w') :
    w'.Offers most e rep c where
  toSteady := h.toSteady.later looks.uses
  opens w'' later := h.opens w'' (looks.trans later)

theorem Offers.mono {fewer : Int} (le : fewer ≤ most) (h : w.Offers most e rep c) :
    w.Offers fewer e rep c where
  toSteady := h.toSteady
  opens w' looks := by
    obtain ⟨r, w'', opened, serves⟩ := h.opens w' looks
    exact ⟨r, w'', opened, serves.mono le⟩

end World

/-! ## Entities that are no stand-ins -/

namespace Entity

/-- Is the entity a stand-in? -/
def isScripted : Entity → Bool
  | scripted _ => true
  | _ => false

/-- The entity after its content was opened. -/
def afterOpening : Entity → Entity
  | once stream _ length type encoding => once stream true length type encoding
  | x => x

theorem isScripted_afterOpening (x : Entity) : x.afterOpening.isScripted = x.isScripted := by
  cases x <;> rfl

/-- The type that the entity says it has, if it is no stand-in. -/
def type : Entity → Value
  | stored _ _ type _ | once _ _ _ type _ | requestBody _ _ type _ | responseBody _ type _ => type
  | scripted _ => .null

/-- The encoding that the entity says it has, if it is no stand-in. -/
def encoding : Entity → Value
  | stored _ _ _ encoding | once _ _ _ _ encoding | requestBody _ _ _ encoding
  | responseBody _ _ encoding => encoding
  | scripted _ => .null

end Entity

/-- A length that can be told and is not zero. -/
def isFilledLength : Except Fault Int → Bool
  | .ok d => d != 0
  | .error _ => false

namespace World

/-- Can the content of the entity be opened more than once, if it is no stand-in? -/
def isRepeatable (w : World) : Entity → Bool
  | .stored .. => true
  | .once .. => false
  | .requestBody _ body _ _ => body.isHeld
  | .responseBody p _ _ => (w.responses.get p).content.isHeld
  | .scripted _ => false

/-- The length that the entity declares, if it is no stand-in. -/
def lengthOf (w : World) : Entity → Except Fault Value
  | .stored _ bs _ _ => .ok (.int bs.length)
  | .once _ _ length _ _ => .ok length
  | .requestBody q body _ _ => (requestLength (w.requests.get q).headers body).map .int
  | .responseBody p _ encoding => (responseLength (w.responses.get p) encoding).map .int
  | .scripted _ => .ok .null

end World

namespace Act

variable {w : World} {e : Ref Entity} {x : Entity}

theorem go_entity (e : Ref Entity) (w : World) :
    go (entity e) w = (.ok (w.entities.get e), w) := rfl

theorem go_contentLength (hx : w.entities.get e = x) (own : x.isScripted = false) :
    go (contentLength e) w = (w.lengthOf x, w) := by
  rw [contentLength, go_bind, go_entity, hx]
  cases x with
  | stored t bs type encoding => rfl
  | once stream consumed length type encoding => rfl
  | requestBody q body type encoding =>
    simp only [go_bind, go_view, go_lift, World.lengthOf]
    cases requestLength (w.requests.get q).headers body <;> rfl
  | responseBody p type encoding =>
    simp only [go_bind, go_view, go_lift, World.lengthOf]
    cases responseLength (w.responses.get p) encoding <;> rfl
  | scripted s => exact absurd own (by simp [Entity.isScripted])

theorem go_repeatable (hx : w.entities.get e = x) (own : x.isScripted = false) :
    go (repeatable e) w = (.ok (.bool (w.isRepeatable x)), w) := by
  rw [repeatable, go_bind, go_entity, hx]
  cases x with
  | scripted s => exact absurd own (by simp [Entity.isScripted])
  | _ => rfl

theorem go_contentType (hx : w.entities.get e = x) (own : x.isScripted = false) :
    go (contentType e) w = (.ok x.type, w) := by
  rw [contentType, go_bind, go_entity, hx]
  cases x with
  | scripted s => exact absurd own (by simp [Entity.isScripted])
  | _ => rfl

theorem go_contentEncoding (hx : w.entities.get e = x) (own : x.isScripted = false) :
    go (contentEncoding e) w = (.ok x.encoding, w) := by
  rw [contentEncoding, go_bind, go_entity, hx]
  cases x with
  | scripted s => exact absurd own (by simp [Entity.isScripted])
  | _ => rfl

theorem go_openContent_stored {t : Bool} {bs : Bytes} {type encoding : Value}
    (hx : w.entities.get e = .stored t bs type encoding) :
    go (openContent e) w = go (openSource (.ofBytes bs)) w := by
  rw [openContent, go_bind, go_entity, hx]

theorem go_openContent_once {stream : Ref Stream} {length type encoding : Value}
    (hx : w.entities.get e = .once stream false length type encoding) :
    go (openContent e) w = (.ok stream, { w with
      entities := w.entities.set e (.once stream true length type encoding) }) := by
  rw [openContent, go_bind, go_entity, hx]
  rfl

theorem go_openContent_consumed {stream : Ref Stream} {length type encoding : Value}
    (hx : w.entities.get e = .once stream true length type encoding) :
    go (openContent e) w = (.error .contentConsumed, w) := by
  rw [openContent, go_bind, go_entity, hx]
  rfl

theorem go_openContent_requestBody {q : Ref Request} {body : Body} {type encoding : Value}
    (hx : w.entities.get e = .requestBody q body type encoding) :
    go (openContent e) w = go (openBody body) w := by
  rw [openContent, go_bind, go_entity, hx]

theorem go_openContent_responseBody {p : Ref Response} {type encoding : Value}
    (hx : w.entities.get e = .responseBody p type encoding) :
    go (openContent e) w = go (openResponse p) w := by
  rw [openContent, go_bind, go_entity, hx]

theorem entities_openBody (body : Body) (w : World) :
    (go (openBody body) w).2.entities = w.entities := by
  cases body with
  | absent => rfl
  | bytes bs => rfl
  | buffer bs => rfl
  | text s => rfl
  | file source => rfl
  | iterator items => rfl
  | value v =>
    rw [openBody, go_bind, go_lift]
    cases iterate v <;> rfl

theorem entities_openResponse (p : Ref Response) (w : World) :
    (go (openResponse p) w).2.entities = w.entities := by
  rw [openResponse, go_bind, go_view]
  dsimp only
  split
  · split
    · split <;> rfl
    · rfl
  · split <;> rfl

/-- Opening marks a read-once entity as opened and leaves every other one. -/
theorem get_openContent (hx : w.entities.get e = x) (own : x.isScripted = false) :
    (go (openContent e) w).2.entities.get e = x.afterOpening := by
  cases x with
  | stored t bs type encoding =>
    rw [go_openContent_stored hx]
    exact hx
  | once stream consumed length type encoding =>
    cases consumed with
    | true =>
      rw [go_openContent_consumed hx]
      exact hx
    | false =>
      rw [go_openContent_once hx]
      exact Store.get_set_same _ _ _
  | requestBody q body type encoding =>
    rw [go_openContent_requestBody hx, entities_openBody]
    exact hx
  | responseBody p type encoding =>
    rw [go_openContent_responseBody hx, entities_openResponse]
    exact hx
  | scripted s => exact absurd own (by simp [Entity.isScripted])

end Act

namespace World

open Act

variable {w w' : World} {e : Ref Entity} {x : Entity} {c : Bytes} {most : Int}

/-- Only a stand-in moves on when it is looked at. -/
theorem eq_of_looks (hx : w.entities.get e = x) (own : x.isScripted = false)
    (h : Looks e w w') : w' = w := by
  induction h with
  | refl => rfl
  | tail _ step same =>
    subst same
    cases step with
    | length => rw [go_contentLength hx own]
    | repeatable => rw [go_repeatable hx own]
    | type => rw [go_contentType hx own]
    | encoding => rw [go_contentEncoding hx own]

/-- The most that happens to an entity in use is that its opening is noted. -/
theorem get_of_uses (hx : w.entities.get e = x) (own : x.isScripted = false)
    (h : Uses e w w') : w'.entities.get e = x ∨ w'.entities.get e = x.afterOpening := by
  have still : x.afterOpening.isScripted = false := (Entity.isScripted_afterOpening x).trans own
  have twice : x.afterOpening.afterOpening = x.afterOpening := by cases x <;> rfl
  induction h with
  | refl => exact Or.inl hx
  | @tail w₁ w₂ _ step ih =>
    cases step with
    | look look =>
      rcases ih with ih | ih
      · rw [eq_of_looks ih own (.single look)]
        exact Or.inl ih
      · rw [eq_of_looks ih still (.single look)]
        exact Or.inr ih
    | opening =>
      rcases ih with ih | ih
      · exact Or.inr (get_openContent ih own)
      · exact Or.inr ((get_openContent ih still).trans twice)
    | reading drawn =>
      rw [drawn.entities]
      exact ih

/-- The flag of an entity depends neither on what was drawn nor on whether it was opened. -/
theorem isRepeatable_of_consulted (h : w.Consulted w') (x : Entity) :
    w'.isRepeatable x = w.isRepeatable x ∧ w'.isRepeatable x.afterOpening = w.isRepeatable x := by
  cases x with
  | responseBody p type encoding =>
    have content := (h.responses p).content
    exact ⟨congrArg Content.isHeld content, congrArg Content.isHeld content⟩
  | _ => exact ⟨rfl, rfl⟩

/-- Every entity that is no stand-in is steady. -/
theorem steady_of_get (hx : w.entities.get e = x) (own : x.isScripted = false) :
    w.Steady e (w.isRepeatable x) := by
  have still : x.afterOpening.isScripted = false := (Entity.isScripted_afterOpening x).trans own
  refine ⟨fun w' uses => ?_, fun w' uses => ?_, fun w' uses => ?_⟩
  · obtain ⟨flag, flag'⟩ := isRepeatable_of_consulted uses.consulted x
    rcases get_of_uses hx own uses with hx' | hx'
    · exact ⟨.bool (w'.isRepeatable x), by rw [go_repeatable hx' own], flag⟩
    · exact ⟨.bool (w'.isRepeatable x.afterOpening), by rw [go_repeatable hx' still], flag'⟩
  · rcases get_of_uses hx own uses with hx' | hx'
    · exact ⟨_, by rw [go_contentType hx' own]⟩
    · exact ⟨_, by rw [go_contentType hx' still]⟩
  · rcases get_of_uses hx own uses with hx' | hx'
    · exact ⟨_, by rw [go_contentEncoding hx' own]⟩
    · exact ⟨_, by rw [go_contentEncoding hx' still]⟩

/-- What an entity that is no stand-in offers is what it opens as now. -/
theorem offers_of_opens (hx : w.entities.get e = x) (own : x.isScripted = false)
    (opens : ∃ r w', go (openContent e) w = (.ok r, w') ∧ w'.Serves most r c) :
    w.Offers most e (w.isRepeatable x) c where
  toSteady := steady_of_get hx own
  opens w' looks := by
    rw [eq_of_looks hx own looks]
    exact opens

/-! ## Read-once entities -/

theorem offers_once {stream : Ref Stream} {length type encoding : Value}
    (hx : w.entities.get e = .once stream false length type encoding)
    (h : w.Serves most stream c) : w.Offers most e false c :=
  offers_of_opens hx rfl
    ⟨stream, _, go_openContent_once hx, h.of_same rfl rfl rfl fun _ => rfl⟩

/-! ## Bytes in memory -/

theorem go_openSource (s : Source) (w : World) :
    go (openSource s) w = (.ok w.streams.next, { w with
      sources := (w.sources.alloc s).2,
      streams := (w.streams.alloc (.direct w.sources.next)).2 }) := rfl

/-- A new stream on its own is its source. -/
theorem of_openSource {P : {σ : Type} → Reader σ → σ → Prop} {s : Source} (w : World)
    (h : P (Tower.reader s.floors) s.state) :
    P ((go (openSource s) w).2.opened w.streams.next).reader
      ((go (openSource s) w).2.opened w.streams.next).state := by
  have kind : (go (openSource s) w).2.streams.get w.streams.next = .direct w.sources.next :=
    Store.get_alloc_same _ _
  have found : (go (openSource s) w).2.sources.get w.sources.next = s := Store.get_alloc_same _ _
  unfold opened
  rw [kind]
  show P (Tower.reader ((go (openSource s) w).2.sources.get w.sources.next).floors)
    ((go (openSource s) w).2.sources.get w.sources.next).state
  rw [found]
  exact h

/-- A new stream on its own serves what its source delivers. -/
theorem serves_openSource {s : Source} (w : World)
    (delivers : (Tower.reader s.floors).Delivers most s.state c)
    (closes : (Tower.reader s.floors).ClosesCleanly s.state) :
    (go (openSource s) w).2.Serves most w.streams.next c :=
  ⟨of_openSource (P := fun reader s => reader.Delivers most s c) w delivers,
    of_openSource (P := fun reader s => reader.ClosesCleanly s) w closes⟩

theorem offers_stored {t : Bool} {bs : Bytes} {type encoding : Value}
    (hx : w.entities.get e = .stored t bs type encoding) : w.Offers largestSize e true bs := by
  refine offers_of_opens hx rfl ⟨_, _, ?_, serves_openSource w (Source.delivers_ofBytes bs)
    (Source.closesCleanly_ofBytes bs)⟩
  rw [go_openContent_stored hx]
  rfl

/-! ## Bodies of requests

A body that is no text and no bytes is read in chunks: the pieces of a file, the items that an
iterator still has to give, the elements of a list. -/

section RequestBody

variable {q : Ref Request} {type encoding : Value}

/-- The supply of a stream that is read in pieces of the usual size. -/
def piecesOf (a : Assembled) : Pulling a.σ := ⟨a.state, streamChunkSize, .live⟩

theorem offers_file {source : Ref Source}
    (hx : w.entities.get e = .requestBody q (.file source) type encoding)
    (h : (Feed.pieces (w.onItsOwn source).reader).Supplies (piecesOf (w.onItsOwn source)) c) :
    w.Offers Value.maxCount e false c := by
  have delivers := Chunked.delivers (x := ⟨piecesOf (w.onItsOwn source), [], false⟩) h
  refine offers_of_opens hx rfl ⟨w.streams.next, _, ?_, serves_newStream
    (s := .overFile source .fresh) delivers (Chunked.closesCleanly _ _)⟩
  rw [go_openContent_requestBody hx]
  rfl

theorem offers_iterator {items : Ref (List Item)}
    (hx : w.entities.get e = .requestBody q (.iterator items) type encoding)
    (h : Feed.items.Supplies (w.iterators.get items) c) : w.Offers Value.maxCount e false c := by
  have delivers := Chunked.delivers (x := ⟨w.iterators.get items, [], false⟩) h
  refine offers_of_opens hx rfl ⟨w.streams.next, _, ?_, serves_newStream
    (s := .overItems items .fresh) delivers (Chunked.closesCleanly _ _)⟩
  rw [go_openContent_requestBody hx]
  rfl

theorem offers_value {v : Value} {is : List Item}
    (hx : w.entities.get e = .requestBody q (.value v) type encoding) (hv : iterate v = .ok is)
    (h : Feed.items.Supplies is c) : w.Offers Value.maxCount e false c := by
  refine offers_of_opens hx rfl ⟨_, _, ?_, serves_openSource w (Source.delivers_ofItems h)
    (Source.closesCleanly_ofItems is)⟩
  rw [go_openContent_requestBody hx, openBody, go_bind, go_lift, hv]
  rfl

end RequestBody

/-! ## Contents of responses -/

/-- Content that is still on the wire is what the raw stream gives. -/
theorem offers_unread {p : Ref Response} {type encoding : Value}
    (hx : w.entities.get e = .responseBody p type encoding)
    (unread : (w.responses.get p).content = .unread)
    (fresh : (w.responses.get p).consumed = false)
    (h : (Feed.pieces (w.rawStream (w.responses.get p).raw).reader).Supplies
      (piecesOf (w.rawStream (w.responses.get p).raw)) c) : w.Offers Value.maxCount e false c := by
  have flag : w.isRepeatable (.responseBody p type encoding) = false := by
    show (w.responses.get p).content.isHeld = false
    rw [unread]
    rfl
  have delivers := Chunked.delivers
    (x := ⟨piecesOf (w.rawStream (w.responses.get p).raw), [], false⟩) h
  have opened : go (openResponse p) w = go (newStream (.overResponse p .fresh)) w := by
    rw [openResponse, go_bind, go_view]
    dsimp only
    rw [unread, fresh]
    rfl
  rw [← flag]
  refine offers_of_opens hx rfl ⟨w.streams.next, _, ?_, serves_newStream
    (s := .overResponse p .fresh) delivers (Chunked.closesCleanly _ _)⟩
  rw [go_openContent_responseBody hx, opened]
  rfl

end World
end HttpTap
