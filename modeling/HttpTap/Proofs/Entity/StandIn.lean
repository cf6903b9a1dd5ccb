import HttpTap.Proofs.Entity.Offers

/-!
# What a stand-in for an entity offers

The members of a stand-in follow scripts, so a stand-in need not be steady.  It is when all the
readings in its scripts succeed and those of its flag agree (`EntityScript.Steady`): reading a
member goes on in the script of that member, and nothing that is done with the entity touches the
rest.  It then offers what the next opening gives (`offers_scripted`).
-/

namespace HttpTap

/-- Every reading succeeds and gives a value with the property. -/
def Readings.Gives (m : Readings) (P : Value → Prop) : Prop :=
  m.items ≠ [] ∧ ∀ i ∈ m.items, ∃ v, i = .ok v ∧ P v

namespace Readings

variable {m : Readings} {P : Value → Prop}

theorem gives_always {v : Value} (h : P v) : (always v).Gives P := by
  refine ⟨List.cons_ne_nil _ _, fun i mem => ⟨v, ?_, h⟩⟩
  exact List.mem_singleton.1 mem

/-- One reading gives such a value, and so do the readings after it. -/
theorem Gives.next (h : m.Gives P) : (∃ v, m.next.1 = .ok v ∧ P v) ∧ m.next.2.Gives P := by
  obtain ⟨items⟩ := m
  obtain ⟨some, all⟩ := h
  cases items with
  | nil => exact absurd rfl some
  | cons i is =>
    have first := all i List.mem_cons_self
    cases is with
    | nil => exact ⟨first, some, all⟩
    | cons j js =>
      refine ⟨first, List.cons_ne_nil _ _, fun k mem => ?_⟩
      exact all k (List.mem_cons_of_mem i mem)

end Readings

/-- The flag is always the same and the descriptions can always be read. -/
structure EntityScript.Steady (s : EntityScript) (rep : Bool) : Prop where
  repeatable : s.repeatable.Gives fun v => v.truthy = rep
  type : s.type.Gives fun _ => True
  encoding : s.encoding.Gives fun _ => True

namespace World

open Act

variable {w w' : World} {e : Ref Entity} {s : EntityScript} {rep : Bool} {c : Bytes}

/-- Looking at a stand-in leaves it a stand-in, just as steady, with the same content. -/
theorem get_of_look (hx : w.entities.get e = .scripted s) (steady : s.Steady rep)
    (h : Look e w w') :
    ∃ s', w'.entities.get e = .scripted s' ∧ s'.Steady rep ∧ s'.contents = s.contents := by
  cases h with
  | length =>
    rw [contentLength, go_bind, go_entity, hx]
    exact ⟨_, Store.get_set_same _ _ _,
      ⟨steady.repeatable, steady.type, steady.encoding⟩, rfl⟩
  | repeatable =>
    rw [Act.repeatable, go_bind, go_entity, hx]
    exact ⟨_, Store.get_set_same _ _ _, { steady with repeatable := steady.repeatable.next.2 }, rfl⟩
  | type =>
    rw [contentType, go_bind, go_entity, hx]
    exact ⟨_, Store.get_set_same _ _ _, { steady with type := steady.type.next.2 }, rfl⟩
  | encoding =>
    rw [contentEncoding, go_bind, go_entity, hx]
    exact ⟨_, Store.get_set_same _ _ _, { steady with encoding := steady.encoding.next.2 }, rfl⟩

theorem get_of_looks (hx : w.entities.get e = .scripted s) (steady : s.Steady rep)
    (h : Looks e w w') :
    ∃ s', w'.entities.get e = .scripted s' ∧ s'.Steady rep ∧ s'.contents = s.contents := by
  induction h with
  | refl => exact ⟨s, hx, steady, rfl⟩
  | tail _ look ih =>
    obtain ⟨s', hx', steady', contents'⟩ := ih
    obtain ⟨s'', hx'', steady'', contents''⟩ := get_of_look hx' steady' look
    exact ⟨s'', hx'', steady'', contents''.trans contents'⟩

theorem go_openContent_scripted (hx : w.entities.get e = .scripted s) {plan : StreamPlan}
    (next : s.nextContent = .ok plan) :
    go (openContent e) w = go (openSource (plan.build (s.name ++ "#" ++ toString s.opened)))
      { w.note (.opened s.name s.opened) with
        entities := w.entities.set e (.scripted s.afterOpening) } := by
  rw [openContent, go_bind, go_entity, hx]
  show go (do
    let plan ← lift s.nextContent
    openSource (plan.build (s.name ++ "#" ++ toString s.opened))) _ = _
  rw [next]
  rfl

/-- A stand-in moves on when it is opened, also if opening fails. -/
theorem get_openContent_scripted (hx : w.entities.get e = .scripted s) :
    (go (openContent e) w).2.entities.get e = .scripted s.afterOpening := by
  cases next : s.nextContent with
  | ok plan =>
    rw [go_openContent_scripted hx next]
    exact Store.get_set_same _ _ _
  | error f =>
    rw [openContent, go_bind, go_entity, hx]
    show (go (do
      let plan ← lift s.nextContent
      openSource (plan.build (s.name ++ "#" ++ toString s.opened)))
        { w.note (.opened s.name s.opened) with
          entities := w.entities.set e (.scripted s.afterOpening) }).2.entities.get e = _
    rw [next]
    exact Store.get_set_same _ _ _

/-- Opening a stand-in leaves it a stand-in that is just as steady. -/
theorem get_of_opening (hx : w.entities.get e = .scripted s) (steady : s.Steady rep) :
    ∃ s', (go (openContent e) w).2.entities.get e = .scripted s' ∧ s'.Steady rep :=
  ⟨s.afterOpening, get_openContent_scripted hx, steady.repeatable, steady.type, steady.encoding⟩

theorem get_scripted_of_uses (hx : w.entities.get e = .scripted s) (steady : s.Steady rep)
    (h : Uses e w w') : ∃ s', w'.entities.get e = .scripted s' ∧ s'.Steady rep := by
  induction h with
  | refl => exact ⟨s, hx, steady⟩
  | tail _ use ih =>
    obtain ⟨s', hx', steady'⟩ := ih
    cases use with
    | look look =>
      obtain ⟨s'', hx'', steady'', -⟩ := get_of_look hx' steady' look
      exact ⟨s'', hx'', steady''⟩
    | opening => exact get_of_opening hx' steady'
    | reading drawn =>
      rw [drawn.entities]
      exact ⟨s', hx', steady'⟩

theorem steady_scripted (hx : w.entities.get e = .scripted s) (steady : s.Steady rep) :
    w.Steady e rep := by
  refine ⟨fun w' uses => ?_, fun w' uses => ?_, fun w' uses => ?_⟩
  · obtain ⟨s', hx', steady'⟩ := get_scripted_of_uses hx steady uses
    obtain ⟨v, hv, flag⟩ := steady'.repeatable.next.1
    rw [Act.repeatable, go_bind, go_entity, hx']
    exact ⟨v, hv, flag⟩
  · obtain ⟨s', hx', steady'⟩ := get_scripted_of_uses hx steady uses
    obtain ⟨v, hv, -⟩ := steady'.type.next.1
    rw [contentType, go_bind, go_entity, hx']
    exact ⟨v, hv⟩
  · obtain ⟨s', hx', steady'⟩ := get_scripted_of_uses hx steady uses
    obtain ⟨v, hv, -⟩ := steady'.encoding.next.1
    rw [contentEncoding, go_bind, go_entity, hx']
    exact ⟨v, hv⟩

/-- A steady stand-in offers what its next opening gives. -/
theorem offers_scripted (hx : w.entities.get e = .scripted s) (steady : s.Steady rep)
    {plan : StreamPlan} (next : s.nextContent = .ok plan)
    (delivers : ∀ name,
      (Tower.reader (plan.build name).floors).Delivers most (plan.build name).state c)
    (closes : ∀ name,
      (Tower.reader (plan.build name).floors).ClosesCleanly (plan.build name).state) :
    w.Offers most e rep c where
  toSteady := steady_scripted hx steady
  opens w' looks := by
    obtain ⟨s', hx', -, contents⟩ := get_of_looks hx steady looks
    have next' : s'.nextContent = .ok plan := by
      rw [← next, EntityScript.nextContent, EntityScript.nextContent, contents]
    rw [go_openContent_scripted hx' next']
    exact ⟨_, _, rfl, serves_openSource _ (delivers _) (closes _)⟩

theorem declares_scripted (hx : w.entities.get e = .scripted s) {d : Int}
    (length : ∃ v, s.length.next.1 = .ok v ∧ v.integer? = some d) : w.Declares e d := by
  obtain ⟨v, hv, hd⟩ := length
  refine ⟨v, ?_, hd⟩
  rw [contentLength, go_bind, go_entity, hx]
  exact hv

end World
end HttpTap
