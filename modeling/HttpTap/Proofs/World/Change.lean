import HttpTap.Span.Access
import HttpTap.World.Streams
import Mathlib.Order.Defs.Unbundled

/-!
# What an action changes

Most steps of the library leave most of the world alone, and three kinds of leaving alone matter.

* `World.Untouched`: what belongs to the program is as it was.  No request, no response and no
  iterator has changed, and every source that had been given out stands where it stood.
* `World.Drawn`: streams were read or closed and nothing else was done.  Sources and iterators
  have moved on and responses may be marked as consumed.
* `World.Consulted`: entities were made and looked at as well, and streams were opened.

Each relates the world before to the world after, and each is a preorder.  `Act.Keeps R a` says
for any preorder `R` that the action `a` stays within it.  The lemmas on `Keeps` follow the way in
which actions are put together.
-/

namespace HttpTap

/-! ## Stores that grow -/

namespace Store

variable {α : Type} {s s' s'' : Store α} {r : Ref α}

/-- Every object that had been given out is still there and has not changed. -/
structure Extends (s s' : Store α) : Prop where
  size_le : s.size ≤ s'.size
  get_eq : ∀ r, s.Has r → s'.get r = s.get r

theorem Extends.refl (s : Store α) : s.Extends s := ⟨Nat.le_refl _, fun _ _ => rfl⟩

theorem Extends.trans (h : s.Extends s') (h' : s'.Extends s'') : s.Extends s'' where
  size_le := Nat.le_trans h.size_le h'.size_le
  get_eq r has :=
    (h'.get_eq r (Nat.lt_of_lt_of_le has h.size_le)).trans (h.get_eq r has)

theorem extends_alloc (s : Store α) (a : α) : s.Extends (s.alloc a).2 :=
  ⟨Nat.le_succ _, fun _ has => get_alloc_of_has has a⟩

/-- Changing an object that had not been given out changes none that had. -/
theorem Extends.set (h : s.Extends s') (fresh : ¬ s.Has r) (a : α) : s.Extends (s'.set r a) where
  size_le := h.size_le
  get_eq q has := by
    have other : q ≠ r := fun same => fresh (same ▸ has)
    rw [get_set_other other]
    exact h.get_eq q has

theorem not_has_next (s : Store α) : ¬ s.Has s.next := Nat.lt_irrefl _

theorem set_set (s : Store α) (r : Ref α) (a b : α) : (s.set r a).set r b = s.set r b := by
  obtain ⟨size, cell⟩ := s
  refine congrArg (Store.mk size) (funext fun i => ?_)
  show (if i = r.index then b else if i = r.index then a else cell i) =
    if i = r.index then b else cell i
  split <;> rfl

end Store

/-! ## Worlds before and after -/

/-- The response is as it was, or it was marked as consumed. -/
structure Response.Marked (p p' : Response) : Prop where
  same : p' = { p with consumed := p'.consumed }
  stays : p.consumed = true → p'.consumed = true

namespace Response.Marked

variable {p p' p'' : Response}

theorem refl (p : Response) : p.Marked p := ⟨rfl, id⟩

theorem trans (h : p.Marked p') (h' : p'.Marked p'') : p.Marked p'' where
  same := by
    have step := h'.same
    rw [h.same] at step
    exact step
  stays := h'.stays ∘ h.stays

theorem headers (h : p.Marked p') : p'.headers = p.headers := by rw [h.same]

theorem content (h : p.Marked p') : p'.content = p.content := by rw [h.same]

theorem raw (h : p.Marked p') : p'.raw = p.raw := by rw [h.same]

end Response.Marked

namespace World

variable {w w' w'' : World}

/-- What belongs to the program is as it was. -/
structure Untouched (w w' : World) : Prop where
  requests : w'.requests = w.requests
  responses : w'.responses = w.responses
  iterators : w'.iterators = w.iterators
  sources : w.sources.Extends w'.sources

/-- Nothing was done but reading and closing streams. -/
structure Drawn (w w' : World) : Prop where
  requests : w'.requests = w.requests
  messages : w'.messages = w.messages
  entities : w'.entities = w.entities
  sinks : w'.sinks = w.sinks
  spans : w'.spans = w.spans
  context : w'.context = w.context
  responses : ∀ p, (w.responses.get p).Marked (w'.responses.get p)

/-- Nothing was done but making, opening and reading entities. -/
structure Consulted (w w' : World) : Prop where
  requests : w'.requests = w.requests
  messages : w'.messages = w.messages
  sinks : w'.sinks = w.sinks
  spans : w'.spans = w.spans
  context : w'.context = w.context
  responses : ∀ p, (w.responses.get p).Marked (w'.responses.get p)
  entities_le : w.entities.size ≤ w'.entities.size

theorem Untouched.refl (w : World) : w.Untouched w := ⟨rfl, rfl, rfl, .refl _⟩

theorem Untouched.trans (h : w.Untouched w') (h' : w'.Untouched w'') : w.Untouched w'' where
  requests := h'.requests.trans h.requests
  responses := h'.responses.trans h.responses
  iterators := h'.iterators.trans h.iterators
  sources := h.sources.trans h'.sources

theorem Drawn.refl (w : World) : w.Drawn w :=
  ⟨rfl, rfl, rfl, rfl, rfl, rfl, fun _ => .refl _⟩

theorem Drawn.trans (h : w.Drawn w') (h' : w'.Drawn w'') : w.Drawn w'' where
  requests := h'.requests.trans h.requests
  messages := h'.messages.trans h.messages
  entities := h'.entities.trans h.entities
  sinks := h'.sinks.trans h.sinks
  spans := h'.spans.trans h.spans
  context := h'.context.trans h.context
  responses p := (h.responses p).trans (h'.responses p)

instance : IsPreorder World Drawn where
  refl := Drawn.refl
  trans _ _ _ := Drawn.trans

theorem Drawn.consulted (h : w.Drawn w') : w.Consulted w' where
  requests := h.requests
  messages := h.messages
  sinks := h.sinks
  spans := h.spans
  context := h.context
  responses := h.responses
  entities_le := Nat.le_of_eq (congrArg Store.size h.entities.symm)

theorem Consulted.trans (h : w.Consulted w') (h' : w'.Consulted w'') : w.Consulted w'' where
  requests := h'.requests.trans h.requests
  messages := h'.messages.trans h.messages
  sinks := h'.sinks.trans h.sinks
  spans := h'.spans.trans h.spans
  context := h'.context.trans h.context
  responses p := (h.responses p).trans (h'.responses p)
  entities_le := Nat.le_trans h.entities_le h'.entities_le

instance : IsPreorder World Consulted where
  refl w := (Drawn.refl w).consulted
  trans _ _ _ := .trans

/-- The property is not lost. -/
def Preserves (P : World → Prop) (w w' : World) : Prop := P w → P w'

instance (P : World → Prop) : IsPreorder World (Preserves P) where
  refl _ := id
  trans _ _ _ h h' := h' ∘ h

end World

/-! ## Actions within a relation -/

namespace Act

variable {α β : Type} {R : World → World → Prop}

/-- Wherever the action is started, the world that it leaves is related to the one before. -/
def Keeps (R : World → World → Prop) (a : Act α) : Prop := ∀ w, R w (go a w).2

/-- What is kept by an action relates the world before a run to the world after it. -/
theorem Keeps.of_go {a : Act α} {x : Except Fault α} {w w' : World} (ha : Keeps R a)
    (h : go a w = (x, w')) : R w w' := by
  have kept := ha w
  rw [h] at kept
  exact kept

theorem Keeps.exists_go {a : Act α} {x : Except Fault α} {w : World} (ha : Keeps R a)
    (h : (go a w).1 = x) : ∃ w', go a w = (x, w') ∧ R w w' :=
  ⟨_, Prod.ext h rfl, ha w⟩

theorem keeps_change {f : World → World} (h : ∀ w, R w (f w)) : Keeps R (change f) := h

theorem Keeps.observe {a : Act α} (ha : Keeps R a) : Keeps R (observe a) := ha

variable [IsPreorder World R]

theorem keeps_pure (x : α) : Keeps R (pure x : Act α) := fun w => refl_of R w

theorem keeps_throw (f : Fault) : Keeps R (throw f : Act α) := fun w => refl_of R w

theorem keeps_lift (r : Except Fault α) : Keeps R (lift r) := fun w => refl_of R w

theorem keeps_view (f : World → α) : Keeps R (view f) := fun w => refl_of R w

theorem Keeps.bind {a : Act α} {f : α → Act β} (ha : Keeps R a) (hf : ∀ x, Keeps R (f x)) :
    Keeps R (a >>= f) := by
  intro w
  have first := ha w
  rw [go_bind]
  generalize go a w = outcome at first
  obtain ⟨x | e, w'⟩ := outcome
  · exact first
  · exact trans_of R first (hf _ w')

theorem Keeps.attempt {a : Act α} {recover : Fault → Act α} (ha : Keeps R a)
    (hr : ∀ f, Keeps R (recover f)) : Keeps R (attempt a recover) := by
  intro w
  have first := ha w
  rw [go_attempt]
  generalize go a w = outcome at first
  obtain ⟨f | x, w'⟩ := outcome
  · dsimp only
    split
    · exact first
    · exact trans_of R first (hr f w')
  · exact first

theorem Keeps.ensuring {a : Act α} {last : Act Unit} (ha : Keeps R a) (hl : Keeps R last) :
    Keeps R (ensuring a last) := by
  intro w
  have both : R w (go last (go a w).2).2 := trans_of R (ha w) (hl _)
  rw [go_ensuring]
  generalize go last (go a w).2 = outcome at both
  obtain ⟨f | _, w'⟩ := outcome <;> exact both

theorem Keeps.forM {f : α → Act Unit} (h : ∀ x, Keeps R (f x)) (xs : List α) :
    Keeps R (xs.forM f) := by
  induction xs with
  | nil => exact keeps_pure ()
  | cons x xs ih => exact (h x).bind fun _ => ih

end Act
end HttpTap
