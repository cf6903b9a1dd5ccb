import HttpTap.Proofs.Capture.Buffering

/-!
# What a copy is a copy of

Nothing needs to be known about an entity to say what a copy of it holds.  If it was replaced, its
stream was read and came to its end, and the copy holds what the stream gave until then
(`World.Copies`).  So the lemmas here start from the outcome: an entity that was made repeatable, or
prepared, is the entity that it was, or a copy of it; and a capture that says that the entity was
replaced gives back a copy.
-/

namespace HttpTap
namespace World

/-- After its members were read the entity opens as a stream that gives `c`, so many bytes at a
time, and then comes to its end. -/
def DrainsTo (w : World) (chunk : Int) (e : Ref Entity) (c : Bytes) : Prop :=
  ∃ w₁ r w₂ w₃, Looks e w w₁ ∧ Act.go (Act.openContent e) w₁ = (.ok r, w₂) ∧
    Act.go (Act.drainStream r chunk) w₂ = (.ok (c, none), w₃)

/-- The entity is one in memory that has the bytes `c`. -/
def Stores (w : World) (e : Ref Entity) (c : Bytes) : Prop :=
  ∃ type encoding, w.entities.get e = .stored false c type encoding

/-- In the world `w'` the entity `e'` has all the bytes that the stream of `e` gives in `w`. -/
structure Copies (w : World) (chunk : Int) (e : Ref Entity) (w' : World) (e' : Ref Entity)
    (c : Bytes) : Prop where
  drains : w.DrainsTo chunk e c
  has : w'.entities.Has e'
  stores : w'.Stores e' c

variable {w w' w'' : World} {e e' : Ref Entity} {c c' : Bytes} {chunk : Int} {rep : Bool}

theorem DrainsTo.earlier (looks : Looks e w w') (h : w'.DrainsTo chunk e c) :
    w.DrainsTo chunk e c := by
  obtain ⟨w₁, r, w₂, w₃, later, opened, drained⟩ := h
  exact ⟨w₁, r, w₂, w₃, looks.trans later, opened, drained⟩

/-- What an entity offers is what its stream gives. -/
theorem DrainsTo.eq_of_offers (h : w.DrainsTo chunk e c) (offers : w.Offers chunk e rep c')
    (pos : 0 < chunk) : c = c' := by
  obtain ⟨w₁, r, w₂, w₃, looks, opened, drained⟩ := h
  obtain ⟨r', w₂', opened', serves⟩ := offers.opens w₁ looks
  obtain ⟨same, rfl⟩ := Prod.mk.inj (opened.symm.trans opened')
  obtain rfl := Except.ok.inj same
  obtain ⟨v, -, drained', -⟩ := Act.go_drain_close serves pos
  exact (Prod.mk.inj (Except.ok.inj (Prod.mk.inj (drained.symm.trans drained')).1)).1

theorem Copies.earlier (looks : Looks e w w') (h : w'.Copies chunk e w'' e' c) :
    w.Copies chunk e w'' e' c :=
  ⟨h.drains.earlier looks, h.has, h.stores⟩

/-- A copy stays one while it is used. -/
theorem Copies.later (h : w.Copies chunk e w' e' c) (uses : Uses e' w' w'') :
    w.Copies chunk e w'' e' c := by
  obtain ⟨type, encoding, held⟩ := h.stores
  refine ⟨h.drains, Nat.lt_of_lt_of_le h.has uses.consulted.entities_le, type, encoding, ?_⟩
  rcases get_of_uses held rfl uses with same | same <;> exact same

end World

namespace Act

open World

variable {w w' : World} {e : Ref Entity} {c : Bytes} {limit chunk : Int}

/-- Buffering without a fault has opened the entity and read its stream to the end. -/
theorem exists_of_bufferContent (buffered : go (bufferContent e chunk) w = (.ok (c, none), w')) :
    ∃ r w₁ w₂, go (openContent e) w = (.ok r, w₁) ∧
      go (drainStream r chunk) w₁ = (.ok (c, none), w₂) := by
  rw [bufferContent, go_bind, go_observe] at buffered
  cases opened : go (openContent e) w with
  | mk outcome w₁ =>
    rw [opened] at buffered
    cases outcome with
    | error f => exact absurd (Prod.mk.inj buffered).1 (by simp)
    | ok r =>
      obtain ⟨⟨data, fault⟩, w₂, drained, buffered⟩ := exists_of_go_bind buffered
      dsimp only at buffered
      rw [go_bind, go_observe] at buffered
      cases closed : go (closeStream r) w₂ with
      | mk outcome w₃ =>
        rw [closed] at buffered
        cases outcome with
        | error f => exact absurd (Prod.mk.inj buffered).1 (by simp)
        | ok u =>
          obtain ⟨rfl, rfl⟩ := Prod.mk.inj (Except.ok.inj (Prod.mk.inj buffered).1)
          exact ⟨r, w₁, w₂, rfl, drained⟩

/-- What replaces an entity is in memory. -/
theorem stores_of_replaceEntity {result : RepeatableResult}
    (made : go (replaceEntity e c) w = (.ok result, w')) :
    w'.entities.Has result.entity ∧ w'.Stores result.entity c := by
  obtain ⟨type, w₁, -, made⟩ := exists_of_go_bind made
  obtain ⟨encoding, w₂, -, made⟩ := exists_of_go_bind made
  obtain ⟨same, rfl⟩ := Prod.mk.inj made
  obtain rfl := Except.ok.inj same
  exact ⟨Nat.lt_succ_self _, type, encoding, Store.get_alloc_same _ _⟩

/-- An entity that was made repeatable is the one that it was, or a copy. -/
theorem same_or_copies_of_makeRepeatable {result : RepeatableResult}
    (made : go (makeRepeatable e chunk) w = (.ok result, w')) :
    result.entity = e ∧ result.replaced = false ∨ ∃ c, w.Copies chunk e w' result.entity c := by
  obtain ⟨flag, w₁, flagged, made⟩ := exists_of_go_bind made
  have looked : Look e w w₁ := by
    have step := Look.repeatable (e := e) w
    rwa [flagged] at step
  split at made
  · obtain rfl := Except.ok.inj (Prod.mk.inj made).1
    exact .inl ⟨rfl, rfl⟩
  · obtain ⟨⟨data, fault⟩, w₂, buffered, made⟩ := exists_of_go_bind made
    cases fault with
    | none =>
      obtain ⟨r, w₃, w₄, opened, drained⟩ := exists_of_bufferContent buffered
      obtain ⟨has, stores⟩ := stores_of_replaceEntity made
      exact .inr ⟨data, ⟨w₁, r, w₃, w₄, .single looked, opened, drained⟩, has, stores⟩
    | some f =>
      dsimp only at made
      split at made
      · exact nomatch (Prod.mk.inj made).1
      · obtain rfl := Except.ok.inj (Prod.mk.inj made).1
        exact .inl ⟨rfl, rfl⟩

/-- An entity that was prepared is the one that it was, or a copy. -/
theorem same_or_copies_of_prepareEntity {p : Prepared}
    (prepared : go (prepareEntity e chunk) w = (.ok (some p), w')) :
    p.entity = e ∧ p.replaced = false ∨ ∃ c, w.Copies chunk e w' p.entity c := by
  obtain ⟨declared, w₁, length, prepared⟩ := exists_of_go_bind prepared
  have looked : Look e w w₁ := by
    have step := Look.length (e := e) w
    rwa [length] at step
  split at prepared
  · exact nomatch Except.ok.inj (Prod.mk.inj prepared).1
  · obtain ⟨flag, w₂, flagged, prepared⟩ := exists_of_go_bind prepared
    have asked : Look e w₁ w₂ := by
      have step := Look.repeatable (e := e) w₁
      rwa [flagged] at step
    split at prepared
    · obtain rfl := Option.some.inj (Except.ok.inj (Prod.mk.inj prepared).1)
      exact .inl ⟨rfl, rfl⟩
    · obtain ⟨result, w₃, made, prepared⟩ := exists_of_go_bind prepared
      obtain ⟨same, rfl⟩ := Prod.mk.inj prepared
      obtain rfl := Option.some.inj (Except.ok.inj same)
      exact (same_or_copies_of_makeRepeatable made).imp_right fun ⟨c, copies⟩ =>
        ⟨c, copies.earlier (.tail (.single looked) asked)⟩

/-- A capture that has replaced the entity gives back a copy, whatever the entity is. -/
theorem exists_copies_of_capture {entity : Option (Ref Entity)} {captured : CaptureResult}
    (ran : go (capture limit chunk entity) w = (.ok captured, w'))
    (replaced : captured.replaced = true) :
    ∃ e e' c, entity = some e ∧ captured.entity = some e' ∧ w.Copies chunk e w' e' c := by
  cases entity with
  | none =>
    obtain rfl := Except.ok.inj (Prod.mk.inj ran).1
    exact nomatch replaced
  | some e =>
    obtain ⟨prepared, w₁, guarded, ran⟩ := exists_of_go_bind ran
    cases prepared with
    | none =>
      obtain rfl := Except.ok.inj (Prod.mk.inj ran).1
      exact nomatch replaced
    | some p =>
      have prepares := of_go_attempt guarded fun f w₂ same =>
        nomatch Except.ok.inj (Prod.mk.inj same).1
      obtain ⟨body, w₂, read, ran⟩ := exists_of_go_bind ran
      obtain ⟨same, rfl⟩ := Prod.mk.inj ran
      obtain rfl := Except.ok.inj same
      rcases same_or_copies_of_prepareEntity prepares with ⟨-, kept⟩ | ⟨c, copies⟩
      · exact nomatch kept.symm.trans replaced
      · exact ⟨e, p.entity, c, rfl, rfl, copies.later ((uses_readBody limit p).of_go read)⟩

end Act
end HttpTap
