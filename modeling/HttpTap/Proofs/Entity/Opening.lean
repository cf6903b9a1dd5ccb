import HttpTap.Proofs.Entity.Offers
import HttpTap.Proofs.World.Closing

/-!
# How an entity opens

Opening an entity comes to one of three things (`opening_openContent`).  Either a stream is made
for the occasion, over bytes or items or a plan that nobody else holds, or over a file, an iterator
or a raw stream (`World.Allots`).  Or the one stream of a read-once entity is handed out, which
marks the entity as consumed.  Or a stand-in notes the opening, moves on in its script and makes a
stream, unless its script says that it fails.

So the stream is new, or it is the one of a read-once entity that was not consumed.  Nothing is
closed meanwhile, and no stream or source that was there before changes.
-/

namespace HttpTap

/-- The entity, unless it is a stand-in. -/
def Entity.own? : Entity → Option Entity
  | .scripted _ => none
  | x => some x

/-- Is the entity the same after every opening? -/
def Entity.isLasting : Entity → Bool
  | .stored .. | .requestBody .. | .responseBody .. => true
  | .once .. | .scripted _ => false

theorem Entity.own?_of_isLasting {x : Entity} (lasting : x.isLasting = true) :
    x.own? = some x := by
  cases x with
  | scripted s => exact nomatch lasting
  | _ => rfl

theorem Entity.eq_of_own? {x y : Entity} (h : y.own? = some x) : y = x := by
  cases y with
  | scripted s => exact nomatch h
  | _ => exact Option.some.inj h

namespace World

open Act

variable {w w' : World} {e e' : Ref Entity} {r : Ref Stream} {q : Ref Source}
  {x : Except Fault (Ref Stream) × World}

/-! ## Streams that are made for the occasion -/

/-- A stream is made over a new source or over something that is there, or nothing is done. -/
inductive Allots (w : World) : Except Fault (Ref Stream) × World → Prop
  | source (s : Source) : Allots w (go (openSource s) w)
  | layer (s : Stream) (indirect : ∀ source, s ≠ .direct source) : Allots w (go (newStream s) w)
  | refused (f : Fault) : Allots w (.error f, w)

theorem allots_openBody (body : Body) (w : World) : w.Allots (go (openBody body) w) := by
  have items (v : Value) :
      w.Allots (go (do openSource (.ofItems (← lift (iterate v)))) w) := by
    rw [go_bind, go_lift]
    cases iterate v with
    | error f => exact .refused f
    | ok is => exact .source _
  cases body with
  | absent => exact items .null
  | bytes bs => exact .source _
  | buffer bs => exact .source _
  | text s => exact .source _
  | file source => exact .layer _ fun _ => Stream.noConfusion
  | iterator it => exact .layer _ fun _ => Stream.noConfusion
  | value v => exact items v

theorem allots_openResponse (p : Ref Response) (w : World) : w.Allots (go (openResponse p) w) := by
  rw [openResponse, go_bind, go_view]
  dsimp only
  split
  · split
    · split
      · exact .source _
      · exact .refused _
    · exact .source _
  · split
    · exact .refused _
    · exact .layer _ fun _ => Stream.noConfusion

namespace Allots

theorem sources (h : w.Allots x) : w.sources.Extends x.2.sources := by
  cases h with
  | source s => exact Store.extends_alloc _ _
  | _ => exact .refl _

theorem streams (h : w.Allots x) : w.streams.Extends x.2.streams := by
  cases h with
  | refused f => exact .refl _
  | _ => exact Store.extends_alloc _ _

theorem entities (h : w.Allots x) : x.2.entities = w.entities := by
  cases h <;> rfl

theorem trace (h : w.Allots x) : x.2.trace = w.trace := by
  cases h <;> rfl

/-- A stream that was made is new, and it is not itself a source that was there. -/
theorem fresh (h : w.Allots x) (made : x.1 = .ok r) :
    ¬ w.streams.Has r ∧ x.2.streams.Has r := by
  have next : ¬ w.streams.Has w.streams.next ∧ Nat.lt w.streams.next.index (w.streams.size + 1) :=
    ⟨Store.not_has_next _, Nat.lt_succ_self _⟩
  cases h with
  | refused f => exact nomatch made
  | source s =>
    obtain rfl : w.streams.next = r := Except.ok.inj made
    exact next
  | layer s indirect =>
    obtain rfl : w.streams.next = r := Except.ok.inj made
    exact next

end Allots

/-! ## Stand-ins that move on -/

/-- A stand-in that moves on changes no entity of another sort. -/
theorem own?_set_scripted {s : EntityScript} (hx : w.entities.get e = .scripted s)
    (s' : EntityScript) (e' : Ref Entity) :
    ((w.entities.set e (.scripted s')).get e').own? = (w.entities.get e').own? := by
  by_cases same : e' = e
  · subst same
    rw [Store.get_set_same, hx]
    rfl
  · rw [Store.get_set_other same]

/-! ## Opening -/

/-- The stand-in has noted that it is opened and has moved on in its script. -/
def announced (w : World) (e : Ref Entity) (s : EntityScript) : World :=
  { w.note (.opened s.name s.opened) with
    entities := w.entities.set e (.scripted s.afterOpening) }

/-- What opening the entity comes to. -/
inductive Opening (e : Ref Entity) (w : World) : Except Fault (Ref Stream) × World → Prop
  | made {x : Except Fault (Ref Stream) × World} (h : w.Allots x) : Opening e w x
  | handed {stream : Ref Stream} {length type encoding : Value}
    (hx : w.entities.get e = .once stream false length type encoding) :
    Opening e w (.ok stream, { w with
      entities := w.entities.set e (.once stream true length type encoding) })
  | scripted {s : EntityScript} {x : Except Fault (Ref Stream) × World}
    (hx : w.entities.get e = .scripted s) (h : (w.announced e s).Allots x) : Opening e w x

theorem opening_openContent (e : Ref Entity) (w : World) : w.Opening e (go (openContent e) w) := by
  cases hx : w.entities.get e with
  | stored t bs type encoding =>
    rw [go_openContent_stored hx]
    exact .made (.source _)
  | once stream consumed length type encoding =>
    cases consumed with
    | true =>
      rw [go_openContent_consumed hx]
      exact .made (.refused _)
    | false =>
      rw [go_openContent_once hx]
      exact .handed hx
  | requestBody request body type encoding =>
    rw [go_openContent_requestBody hx]
    exact .made (allots_openBody body w)
  | responseBody p type encoding =>
    rw [go_openContent_responseBody hx]
    exact .made (allots_openResponse p w)
  | scripted s =>
    have ran : go (openContent e) w = go (do
        let plan ← lift s.nextContent
        openSource (plan.build (s.name ++ "#" ++ toString s.opened))) (w.announced e s) := by
      rw [openContent, go_bind, go_entity, hx]
      rfl
    rw [ran, go_bind, go_lift]
    refine .scripted hx ?_
    cases s.nextContent with
    | error f => exact .refused f
    | ok plan => exact .source _

theorem opening_of_go (h : go (openContent e) w = x) : w.Opening e x := h ▸ opening_openContent e w

namespace Opening

theorem sources (h : w.Opening e x) : w.sources.Extends x.2.sources := by
  cases h with
  | made h => exact h.sources
  | handed hx => exact .refl _
  | scripted hx h => exact h.sources

theorem streams (h : w.Opening e x) : w.streams.Extends x.2.streams := by
  cases h with
  | made h => exact h.streams
  | handed hx => exact .refl _
  | scripted hx h => exact h.streams

/-- Opening closes nothing. -/
theorem closings (h : w.Opening e x) : x.2.closings = w.closings := by
  cases h with
  | made h => exact congrArg (List.filter _) h.trace
  | handed hx => rfl
  | scripted hx h =>
    rw [World.closings, h.trace]
    rfl

theorem size_entities (h : w.Opening e x) : x.2.entities.size = w.entities.size := by
  cases h with
  | made h => exact congrArg Store.size h.entities
  | handed hx => rfl
  | scripted hx h =>
    rw [h.entities]
    rfl

/-- An opening that was refused leaves every entity as it was, stand-ins apart. -/
theorem own?_of_refused (h : w.Opening e x) {f : Fault} (failed : x.1 = .error f) (e' : Ref Entity) :
    (x.2.entities.get e').own? = (w.entities.get e').own? := by
  cases h with
  | made h => rw [h.entities]
  | handed hx => exact nomatch failed
  | @scripted s _ hx h =>
    rw [h.entities]
    exact own?_set_scripted hx s.afterOpening e'

/-- A stream that was opened is new, or it is the one of a read-once entity, which is consumed by
that. -/
theorem given (h : w.Opening e x) (opened : x.1 = .ok r) :
    (¬ w.streams.Has r ∧ x.2.streams.Has r ∧
      ∀ e', (x.2.entities.get e').own? = (w.entities.get e').own?) ∨
    ∃ length type encoding, w.entities.get e = .once r false length type encoding ∧
      x.2 = { w with entities := w.entities.set e (.once r true length type encoding) } := by
  cases h with
  | made h =>
    obtain ⟨fresh, has⟩ := h.fresh opened
    exact .inl ⟨fresh, has, fun e' => by rw [h.entities]⟩
  | handed hx =>
    obtain rfl := Except.ok.inj opened
    exact .inr ⟨_, _, _, hx, rfl⟩
  | @scripted s _ hx h =>
    obtain ⟨fresh, has⟩ := h.fresh opened
    refine .inl ⟨fresh, has, fun e' => ?_⟩
    rw [h.entities]
    exact own?_set_scripted hx s.afterOpening e'

end Opening

end World
end HttpTap
