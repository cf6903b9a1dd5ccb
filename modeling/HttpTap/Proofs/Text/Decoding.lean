import HttpTap.Capture.Body

/-!
# Decoded text

A byte is never lost without a trace: it completes something, or it stays in hand and becomes
visible when whole data comes to its end.  So whole data that is not empty has a text that is not
empty, and a captured text is empty only if nothing was captured.
-/

namespace HttpTap
namespace Text
namespace Utf8

/-- A byte that begins a character is in hand afterwards, or something is put out. -/
theorem begin_visible (b : UInt8) : (begin b).1 ≠ [] ∨ flush (begin b).2 ≠ [] := by
  unfold begin
  dsimp only
  split
  · exact Or.inl (by simp)
  split
  · exact Or.inl (by simp)
  split
  · exact Or.inr (by simp [flush])
  split
  · exact Or.inr (by simp [flush])
  split
  · exact Or.inr (by simp [flush])
  · exact Or.inl (by simp)

/-- Giving up puts something out if anything was in hand. -/
theorem restart_ne_nil {count : Nat} (pos : 0 < count) (b : UInt8) : (restart count b).1 ≠ [] := by
  intro none
  have both : List.replicate count replacement ++ (begin b).1 = [] := none
  have gone : count = 0 := by simpa using (List.append_eq_nil_iff.1 both).1
  omega

/-- Every byte leaves something in hand or puts something out. -/
theorem step_visible (s : State) (b : UInt8) : (step s b).1 ≠ [] ∨ flush (step s b).2 ≠ [] := by
  cases s with
  | ready => exact begin_visible b
  | surrogate => exact Or.inl (restart_ne_nil (by omega) b)
  | partway bits more low high =>
    unfold step
    dsimp only
    split
    · cases more with
      | zero => exact Or.inl (by simp)
      | succ more => exact Or.inr (by simp [flush])
    · split
      · exact Or.inr (by simp [flush])
      · exact Or.inl (restart_ne_nil (by omega) b)

/-- What is in hand is not lost by reading on. -/
theorem run_visible {s : State} (bs : Bytes) (h : bs ≠ [] ∨ flush s ≠ []) :
    (run s bs).1 ++ flush (run s bs).2 ≠ [] := by
  induction bs generalizing s with
  | nil =>
    rcases h with h | h
    · exact absurd rfl h
    · exact h
  | cons b bs ih =>
    intro none
    rw [run_cons, List.append_assoc] at none
    obtain ⟨out, rest⟩ := List.append_eq_nil_iff.1 none
    rcases step_visible s b with visible | visible
    · exact visible out
    · exact ih (Or.inr visible) rest

/-- Whole data that is not empty has a text that is not empty. -/
theorem decode_whole_ne_nil {bs : Bytes} (h : bs ≠ []) : decode bs false ≠ [] := by
  rw [decode_whole]
  exact run_visible bs (Or.inl h)

end Utf8
end Text

theorem capturedText_eq (bs : Bytes) (cut : Bool) :
    capturedText bs cut = decodeBody bs cut ++ if cut then truncationMarker else "" := by
  cases cut with
  | true => rfl
  | false => exact (String.append_empty).symm

/-- The text of captured bytes is not empty: there is the marker, or there is some character. -/
theorem capturedText_ne_empty {bs : Bytes} (h : bs ≠ []) (cut : Bool) :
    capturedText bs cut ≠ "" := by
  intro none
  cases cut with
  | true =>
    have marker : truncationMarker = "" := (String.append_eq_empty_iff.1 none).2
    exact absurd marker (by decide)
  | false =>
    have chars : Text.Utf8.decode bs false = [] := by
      have same := congrArg String.toList (show decodeBody bs false = "" from none)
      simpa [decodeBody] using same
    exact Text.Utf8.decode_whole_ne_nil h chars

end HttpTap
