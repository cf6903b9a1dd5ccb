import HttpTap.Proofs.World.Opened
import HttpTap.Proofs.World.Safety

/-!
# Worlds that raise no interrupts

What a program hands to the library may fail in many ways.  A world is *calm* if none of these ways
is an interrupt: no stream, no iterator, no stand-in for an entity and no message raises one
(`World.Calm`).

Calmness is an invariant.  Whatever is done with an opened stream leaves the world calm
(`Calm.putBack`), and so do the actions on streams, whose faults are contained (`safe_readStream`,
`safe_closeStream`, `safe_drainStream`, `safe_readBounded`).
-/

namespace HttpTap

namespace Store

variable {α : Type} {s : Store α} {P : α → Prop}

/-- What holds of every object holds after one of them was replaced by another of the sort. -/
theorem forall_set (h : ∀ r, P (s.get r)) (q : Ref α) {a : α} (ha : P a) (r : Ref α) :
    P ((s.set q a).get r) := by
  by_cases same : r = q
  · rw [same, get_set_same]
    exact ha
  · rw [get_set_other same]
    exact h r

theorem forall_alloc (h : ∀ r, P (s.get r)) {a : α} (ha : P a) (r : Ref α) :
    P ((s.alloc a).2.get r) := by
  by_cases same : r.index = s.size
  · have : r = s.next := congrArg Ref.mk same
    rw [this, get_alloc_same]
    exact ha
  · show P (if r.index = s.size then a else s.cell r.index)
    rw [if_neg same]
    exact h r

end Store

/-! ## What a world may hold -/

/-- No reading of the member raises an interrupt. -/
def Readings.Calm (r : Readings) : Prop := CalmItems r.items

theorem Readings.Calm.next {r : Readings} (h : r.Calm) :
    r.next.2.Calm ∧ Contained (fun _ => True) r.next.1 := by
  match r with
  | ⟨[]⟩ => exact ⟨h, trivial⟩
  | ⟨[i]⟩ => exact ⟨h, h i List.mem_cons_self⟩
  | ⟨i :: j :: is⟩ =>
    exact ⟨fun k mem => h k (List.mem_cons_of_mem _ mem), h i List.mem_cons_self⟩

/-- No member of the stand-in raises an interrupt, and no content of it does. -/
structure EntityScript.Calm (s : EntityScript) : Prop where
  repeatable : s.repeatable.Calm
  length : s.length.Calm
  type : s.type.Calm
  encoding : s.encoding.Calm
  contents : ∀ c ∈ s.contents, Contained StreamPlan.Calm c

theorem EntityScript.Calm.nextContent {s : EntityScript} (h : s.Calm) :
    Contained StreamPlan.Calm s.nextContent := by
  obtain ⟨name, repeatable, length, type, encoding, contents, opened⟩ := s
  cases contents with
  | nil => exact ⟨fun f none => absurd none (by simp), fun f none => absurd none (by simp)⟩
  | cons c cs => exact h.contents c List.mem_cons_self

theorem EntityScript.Calm.afterOpening {s : EntityScript} (h : s.Calm) : s.afterOpening.Calm := by
  refine ⟨h.repeatable, h.length, h.type, h.encoding, ?_⟩
  intro c mem
  refine h.contents c ?_
  obtain ⟨name, repeatable, length, type, encoding, contents, opened⟩ := s
  match contents with
  | [] => exact mem
  | [d] => exact mem
  | d :: d' :: ds => exact List.mem_cons_of_mem _ mem

/-- Only a stand-in could raise an interrupt of its own. -/
def Entity.Calm : Entity → Prop
  | .scripted s => s.Calm
  | _ => True

/-- Reading the status raises no interrupt. -/
def CalmStatus (status : Option Item) : Prop :=
  ∀ i, status = some i → Contained (fun _ => True) i

/-- Reading the entity or the status raises no interrupt. -/
def Message.Calm : Message → Prop
  | .plain _ status | .readOnly _ status | .bare status => CalmStatus status
  | .broken f status => f.interrupts = false ∧ CalmStatus status
  | .request _ | .response _ => True

namespace World

/-- Nothing in the world raises an interrupt. -/
structure Calm (w : World) : Prop where
  sources : ∀ r, (w.sources.get r).Calm
  iterators : ∀ r, CalmItems (w.iterators.get r)
  entities : ∀ r, (w.entities.get r).Calm
  messages : ∀ r, (w.messages.get r).Calm

variable {w w' : World} {r : Ref Stream}

/-- A world that holds the same objects is as calm. -/
theorem Calm.of_same (h : w.Calm) (sources : w'.sources = w.sources)
    (iterators : w'.iterators = w.iterators) (entities : w'.entities = w.entities)
    (messages : w'.messages = w.messages) : w'.Calm where
  sources := sources ▸ h.sources
  iterators := iterators ▸ h.iterators
  entities := entities ▸ h.entities
  messages := messages ▸ h.messages

theorem Calm.setSource (h : w.Calm) (source : Ref Source) {s : Source} (calm : s.Calm) :
    ({ w with sources := w.sources.set source s } : World).Calm :=
  ⟨Store.forall_set h.sources source calm, h.iterators, h.entities, h.messages⟩

theorem Calm.setIterator (h : w.Calm) (iterator : Ref (List Item)) {is : List Item}
    (calm : CalmItems is) :
    ({ w with iterators := w.iterators.set iterator is } : World).Calm :=
  ⟨h.sources, Store.forall_set h.iterators iterator calm, h.entities, h.messages⟩

theorem Calm.setEntity (h : w.Calm) (e : Ref Entity) {x : Entity} (calm : x.Calm) :
    ({ w with entities := w.entities.set e x } : World).Calm :=
  ⟨h.sources, h.iterators, Store.forall_set h.entities e calm, h.messages⟩

theorem Calm.setMessage (h : w.Calm) (m : Ref Message) {x : Message} (calm : x.Calm) :
    ({ w with messages := w.messages.set m x } : World).Calm :=
  ⟨h.sources, h.iterators, h.entities, Store.forall_set h.messages m calm⟩

theorem Calm.newSource (h : w.Calm) {s : Source} (calm : s.Calm) :
    ({ w with sources := (w.sources.alloc s).2 } : World).Calm :=
  ⟨Store.forall_alloc h.sources calm, h.iterators, h.entities, h.messages⟩

theorem Calm.newEntity (h : w.Calm) {x : Entity} (calm : x.Calm) :
    ({ w with entities := (w.entities.alloc x).2 } : World).Calm :=
  ⟨h.sources, h.iterators, Store.forall_alloc h.entities calm, h.messages⟩

theorem Calm.newMessage (h : w.Calm) {x : Message} (calm : x.Calm) :
    ({ w with messages := (w.messages.alloc x).2 } : World).Calm :=
  ⟨h.sources, h.iterators, h.entities, Store.forall_alloc h.messages calm⟩

/-- A world in which there is nothing is calm. -/
theorem calm_empty : World.empty.Calm :=
  ⟨fun _ => Source.calm_ofBytes [], fun _ _ mem => absurd mem List.not_mem_nil, fun _ => trivial,
    fun _ _ none => absurd none (by simp)⟩

/-! ## Opened streams -/

theorem Calm.onItsOwn_putBack (h : w.Calm) {source : Ref Source} {s : (w.onItsOwn source).σ}
    (reached : (w.onItsOwn source).reader.Reaches (w.onItsOwn source).state s) :
    ((w.onItsOwn source).putBack s).Calm := by
  have calm : Source.Calm ⟨(w.sources.get source).floors, s⟩ :=
    Reader.Calm.later (h.sources source) reached
  exact (h.setSource source calm).of_same rfl rfl rfl rfl

theorem Calm.rawStream (h : w.Calm) (raw : Option (Ref Source)) :
    (w.rawStream raw).reader.Calm (w.rawStream raw).state := by
  cases raw with
  | some source => exact h.sources source
  | none => exact Reader.calm_missing rfl

theorem Calm.rawStream_putBack (h : w.Calm) {raw : Option (Ref Source)} {s : (w.rawStream raw).σ}
    (reached : (w.rawStream raw).reader.Reaches (w.rawStream raw).state s) :
    ((w.rawStream raw).putBack s).Calm := by
  cases raw with
  | some source => exact h.onItsOwn_putBack reached
  | none => exact h

/-- A stream of a calm world is calm. -/
theorem Calm.opened (h : w.Calm) (r : Ref Stream) :
    (w.opened r).reader.Calm (w.opened r).state := by
  unfold World.opened
  cases w.streams.get r with
  | direct source => exact h.sources source
  | overFile source layer =>
    exact Chunked.calm (F := .pieces (w.onItsOwn source).reader)
      (Feed.calm_pieces (h.sources source))
  | overItems items layer =>
    exact Chunked.calm (F := .items) (Feed.calm_items (h.iterators items))
  | overResponse p layer =>
    exact Chunked.calm (F := .pieces (w.rawStream (w.responses.get p).raw).reader)
      (Feed.calm_pieces (h.rawStream _))

/-- Whatever is done with a stream, the world stays calm. -/
theorem Calm.putBack (h : w.Calm) {s : (w.opened r).σ}
    (reached : (w.opened r).reader.Reaches (w.opened r).state s) :
    ((w.opened r).putBack s).Calm := by
  unfold World.opened at s reached ⊢
  generalize w.streams.get r = k at s reached ⊢
  cases k with
  | direct source => exact h.onItsOwn_putBack reached
  | overFile source layer =>
    have reads := (Feed.pulls_pieces (Chunked.pulls_of_reaches reached)).1
    exact (h.onItsOwn_putBack (s := s.feed.source) reads.reaches).of_same rfl rfl rfl rfl
  | overItems items layer =>
    have rest := Feed.calmItems_pulls (h.iterators items) (Chunked.pulls_of_reaches reached)
    exact ⟨h.sources, Store.forall_set h.iterators items rest, h.entities, h.messages⟩
  | overResponse p layer =>
    have reads := (Feed.pulls_pieces (Chunked.pulls_of_reaches reached)).1
    have calm := h.rawStream_putBack (s := s.feed.source) reads.reaches
    show (markEnded _ p s.feed.supply).Calm
    unfold markEnded
    split <;> exact calm.of_same rfl rfl rfl rfl

end World

/-! ## Actions on streams -/

namespace Act

open World

theorem safe_say (x : LogRecord) : Safe Calm (fun _ => True) (say x) :=
  safe_change fun _ h => h.of_same rfl rfl rfl rfl

theorem succeeds_say (x : LogRecord) : Succeeds Calm (fun _ => True) (say x) :=
  succeeds_change fun _ h => h.of_same rfl rfl rfl rfl

theorem safe_readStream (r : Ref Stream) (size : Int) :
    Safe Calm (fun _ => True) (readStream r size) :=
  fun _ h => ⟨h.putBack (Reader.reaches_read _ _ _), (h.opened r).read size⟩

theorem safe_closeStream (r : Ref Stream) : Safe Calm (fun _ => True) (closeStream r) :=
  fun _ h => ⟨h.putBack (Reader.reaches_close _ _), (h.opened r).close⟩

/-- Reading a stream to its end gives what was read; if it ended in a fault, that is contained. -/
theorem succeeds_drainStream (r : Ref Stream) (chunk : Int) :
    Succeeds Calm (fun d => ∀ f, d.2 = some f → f.interrupts = false) (drainStream r chunk) := by
  intro w h
  obtain ⟨reached, faults⟩ := (h.opened r).drain chunk
  exact ⟨h.putBack reached, _, rfl, faults⟩

theorem safe_readBounded (r : Ref Stream) (limit chunk : Int) :
    Safe Calm (fun _ => True) (readBounded r limit chunk) := by
  intro w h
  obtain ⟨reached, contained⟩ := (h.opened r).readBounded limit chunk
  exact ⟨h.putBack reached, contained⟩

theorem safe_openSource {s : Source} (calm : s.Calm) : Safe Calm (fun _ => True) (openSource s) :=
  fun _ h => ⟨(h.newSource calm).of_same rfl rfl rfl rfl, trivial⟩

theorem safe_newStream (s : Stream) : Safe Calm (fun _ => True) (newStream s) :=
  fun _ h => ⟨h.of_same rfl rfl rfl rfl, trivial⟩

end Act
end HttpTap
