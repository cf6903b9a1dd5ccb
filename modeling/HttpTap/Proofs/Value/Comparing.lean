import HttpTap.Value.Integer

/-!
# Values and limits

A length may be declared as anything, and a limit is compared with it.  What is no number at all
compares with no limit, so that it does not depend on the limit whether comparing fails
(`Value.compareInt_ok_or_error`).  Whatever does compare exceeds every limit below one that it
exceeds (`Value.exceeds_of_le`), doubles among them.
-/

namespace HttpTap

/-- A number that is greater than an integer is greater than every lesser one. -/
theorem Number.Double.compareInt?_gt_of_le {x : Number.Double} {k₁ k₂ : Int} (le : k₁ ≤ k₂)
    (h : x.compareInt? k₂ = some .gt) : x.compareInt? k₁ = some .gt := by
  cases x with
  | nan => exact h
  | infinite s => exact h
  | finite s m e =>
    rw [compareInt?] at h ⊢
    dsimp only at h ⊢
    generalize (if s = true then -((magnitude m e).1 : Int) else ((magnitude m e).1 : Int)) = n
      at h ⊢
    have scaled : k₁ * ((magnitude m e).2 : Int) ≤ k₂ * (magnitude m e).2 :=
      Int.mul_le_mul_of_nonneg_right le (Int.natCast_nonneg _)
    have greater := Int.compare_eq_gt.1 (Option.some.inj h)
    have more : compare n (k₁ * (magnitude m e).2) = .gt := Int.compare_eq_gt.2 (by omega)
    rw [more]

namespace Value

variable {v : Value} {k₁ k₂ : Int}

/-- A value compares with every integer or with none. -/
theorem compareInt_ok_or_error (v : Value) :
    (∀ k, ∃ order, v.compareInt k = .ok order) ∨ ∃ f, ∀ k, v.compareInt k = .error f := by
  cases number : v.integer? with
  | some n => exact .inl fun k => ⟨_, compareInt_of_integer? number k⟩
  | none =>
    unfold compareInt
    split
    · exact .inl fun k => ⟨_, rfl⟩
    · rw [number]
      exact .inr ⟨_, fun k => rfl⟩

theorem compareInt_int (n k : Int) : (int n).compareInt k = .ok (some (compare n k)) := rfl

theorem compareInt_gt_of_le (le : k₁ ≤ k₂) (h : v.compareInt k₂ = .ok (some .gt)) :
    v.compareInt k₁ = .ok (some .gt) := by
  cases number : v.integer? with
  | some n =>
    rw [compareInt_of_integer? number] at h ⊢
    rw [compareInt_int] at h ⊢
    have greater := Int.compare_eq_gt.1 (Option.some.inj (Except.ok.inj h))
    have more : compare n k₁ = .gt := Int.compare_eq_gt.2 (by omega)
    rw [more]
  | none =>
    unfold compareInt at h ⊢
    split at h
    · exact congrArg Except.ok (Number.Double.compareInt?_gt_of_le le (Except.ok.inj h))
    · rw [number] at h
      exact nomatch h

/-- What exceeds a limit exceeds every smaller one. -/
theorem exceeds_of_le (le : k₁ ≤ k₂) (h : v.exceeds k₂ = .ok true) : v.exceeds k₁ = .ok true := by
  rw [exceeds] at h ⊢
  cases order : v.compareInt k₂ with
  | error f =>
    rw [order] at h
    cases h
  | ok order₂ =>
    rw [order] at h
    have greater : order₂ = some .gt := beq_iff_eq.1 (Except.ok.inj h)
    rw [compareInt_gt_of_le le (greater ▸ order)]
    rfl

end Value

end HttpTap
