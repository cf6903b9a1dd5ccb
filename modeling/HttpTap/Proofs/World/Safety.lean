import HttpTap.Proofs.Reading.Calm
import HttpTap.Proofs.World.Change

/-!
# What guards contain

Every guard of the library lets interrupts through and contains all other faults.  So an action is
of no danger behind a guard when the faults that it ends in are no interrupts.  `Act.Safe P Q a`
says so of every world in which `P` holds, and says besides that `P` holds afterwards and that a
result has the property `Q`.

`P` is for what is known about the objects of the world: a stream that raises an interrupt when it
is read makes no action on it safe.  Where nothing need be known, `Act.Safe.of_keeps` gets from a
frame condition any `P` that the frame respects.

An action may come to a result wherever `P` holds (`Act.Succeeds`), and behind a guard every safe
action does (`Act.Safe.succeeds`).
-/

namespace HttpTap
namespace Act

/-- Started where `P` holds, the action leaves `P` true; its result has the property `Q`, and a
fault of it is no interrupt. -/
def Safe {α : Type} (P : World → Prop) (Q : α → Prop) (a : Act α) : Prop :=
  ∀ w, P w → P (go a w).2 ∧ Contained Q (go a w).1

section Safe

variable {α β : Type} {P : World → Prop} {Q : α → Prop} {S : β → Prop} {a : Act α}

theorem safe_pure {x : α} (h : Q x) : Safe P Q (pure x : Act α) := fun _ hw => ⟨hw, h⟩

theorem safe_throw {f : Fault} (h : f.interrupts = false) : Safe P Q (throw f : Act α) :=
  fun _ hw => ⟨hw, h⟩

theorem safe_lift {r : Except Fault α} (h : Contained Q r) : Safe P Q (lift r) :=
  fun _ hw => ⟨hw, h⟩

theorem safe_view {f : World → α} (h : ∀ w, P w → Q (f w)) : Safe P Q (view f) :=
  fun w hw => ⟨hw, h w hw⟩

theorem safe_change {f : World → World} (h : ∀ w, P w → P (f w)) :
    Safe P (fun _ => True) (change f) :=
  fun w hw => ⟨h w hw, trivial⟩

theorem Safe.bind {f : α → Act β} (ha : Safe P Q a) (hf : ∀ x, Q x → Safe P S (f x)) :
    Safe P S (a >>= f) := by
  intro w hw
  obtain ⟨kept, result⟩ := ha w hw
  rw [go_bind]
  generalize go a w = outcome at kept result
  obtain ⟨e | x, w'⟩ := outcome
  · exact ⟨kept, result⟩
  · exact hf x result w' kept

theorem Safe.mono (ha : Safe P Q a) {Q' : α → Prop} (weaker : ∀ x, Q x → Q' x) : Safe P Q' a :=
  fun w hw => ⟨(ha w hw).1, (ha w hw).2.mono weaker⟩

/-- What is known after a run of a safe action. -/
theorem Safe.of_go (ha : Safe P Q a) {w w' : World} {r : Except Fault α} (hw : P w)
    (h : go a w = (r, w')) : P w' ∧ Contained Q r := by
  have known := ha w hw
  rw [h] at known
  exact known

theorem Safe.observe (ha : Safe P Q a) : Safe P (Contained Q) (observe a) :=
  fun w hw => ha w hw

theorem Safe.ensuring {last : Act Unit} {T : Unit → Prop} (ha : Safe P Q a) (hl : Safe P T last) :
    Safe P Q (ensuring a last) :=
  ha.observe.bind fun _ outcome => hl.bind fun _ _ => safe_lift outcome

theorem Safe.forM {f : α → Act Unit} (xs : List α)
    (h : ∀ x ∈ xs, Safe P (fun _ => True) (f x)) : Safe P (fun _ => True) (xs.forM f) := by
  induction xs with
  | nil => exact safe_pure trivial
  | cons x xs ih =>
    refine (h x List.mem_cons_self).bind fun _ _ => ih fun y mem => ?_
    exact h y (List.mem_cons_of_mem x mem)

/-- An action that is safe everywhere is safe where `P` holds, if the frame respects `P`. -/
theorem Safe.of_keeps {R : World → World → Prop} (h : Safe (fun _ => True) Q a) (keeps : Keeps R a)
    (respects : ∀ w w', R w w' → P w → P w') : Safe P Q a :=
  fun w hw => ⟨respects w _ (keeps w) hw, (h w trivial).2⟩

end Safe

/-! ## Results -/

/-- Started where `P` holds, the action comes to a result with the property `Q`, and leaves `P`
true. -/
def Succeeds {α : Type} (P : World → Prop) (Q : α → Prop) (a : Act α) : Prop :=
  ∀ w, P w → P (go a w).2 ∧ ∃ x, (go a w).1 = .ok x ∧ Q x

section Succeeds

variable {α β : Type} {P : World → Prop} {Q : α → Prop} {S : β → Prop} {a : Act α}

theorem succeeds_pure {x : α} (h : Q x) : Succeeds P Q (pure x : Act α) :=
  fun _ hw => ⟨hw, x, rfl, h⟩

theorem succeeds_change {f : World → World} (h : ∀ w, P w → P (f w)) :
    Succeeds P (fun _ => True) (change f) :=
  fun w hw => ⟨h w hw, (), rfl, trivial⟩

theorem Succeeds.bind {f : α → Act β} (ha : Succeeds P Q a)
    (hf : ∀ x, Q x → Succeeds P S (f x)) : Succeeds P S (a >>= f) := by
  intro w hw
  obtain ⟨kept, x, result, hx⟩ := ha w hw
  rw [go_bind, show go a w = (.ok x, (go a w).2) from Prod.ext result rfl]
  exact hf x hx _ kept

theorem Succeeds.safe (h : Succeeds P Q a) : Safe P Q a := by
  intro w hw
  obtain ⟨kept, x, result, hx⟩ := h w hw
  rw [result]
  exact ⟨kept, hx⟩

theorem Safe.observe_succeeds (h : Safe P Q a) : Succeeds P (Contained Q) (Act.observe a) :=
  fun w hw => ⟨(h w hw).1, _, rfl, (h w hw).2⟩

/-- Behind a guard that succeeds, a safe action succeeds. -/
theorem Safe.succeeds {recover : Fault → Act α} (ha : Safe P Q a)
    (hr : ∀ f, f.interrupts = false → Succeeds P Q (recover f)) :
    Succeeds P Q (Act.attempt a recover) := by
  intro w hw
  obtain ⟨kept, result⟩ := ha w hw
  generalize h : go a w = outcome at kept result
  obtain ⟨f | x, w'⟩ := outcome
  · rw [go_attempt_of_error h result]
    exact hr f result w' kept
  · rw [Act.go_attempt, h]
    exact ⟨kept, x, rfl, result⟩

/-- What the frame respects is still true of the world besides. -/
theorem Succeeds.and_of_keeps {R : World → World → Prop} {P' : World → Prop}
    (h : Succeeds P Q a) (keeps : Keeps R a) (respects : ∀ w w', R w w' → P' w → P' w') :
    Succeeds (fun w => P w ∧ P' w) Q a :=
  fun w hw => ⟨⟨(h w hw.1).1, respects w _ (keeps w) hw.2⟩, (h w hw.1).2⟩

theorem Succeeds.go (h : Succeeds P Q a) {w : World} (hw : P w) :
    ∃ x w', Act.go a w = (.ok x, w') ∧ P w' ∧ Q x := by
  obtain ⟨kept, x, result, hx⟩ := h w hw
  exact ⟨x, _, Prod.ext result rfl, kept, hx⟩

end Succeeds

end Act
end HttpTap
