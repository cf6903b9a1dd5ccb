import HttpTap.Proofs.Text.Encoding
import Mathlib.Data.List.Infix

/-!
# Where data is cut

The bytes may be anything here.  The decoder puts a character out when the byte at hand settles it,
and never takes one back.  So what is read of a beginning of the data is a beginning of what is read
of the data, wherever the cuts are (`decode_take_mono`), and what a cut leaves in hand is all that
whole data has besides (`decode_whole_eq`).

## How much is left in hand

At most one character is in hand, and at the end of whole data it becomes one replacement character.
The exception are two bytes that would begin a surrogate.  They are no character, so whole data has
two replacement characters for them; yet cut data has none, since only the next byte would settle
that.  `run_eq_surrogate_iff` says that this is a matter of the last two bytes alone: after `ED` the
machine always stands in the same place, whatever it had in hand before.
-/

namespace HttpTap
namespace Text
namespace Utf8

/-! ## Cuts -/

/-- What was put out stays, whatever comes after it. -/
theorem run_mono {as bs : Bytes} (front : as <+: bs) (s : State) :
    (run s as).1 <+: (run s bs).1 := by
  obtain ⟨rest, rfl⟩ := front
  rw [run_append]
  exact List.prefix_append _ _

/-- The later the cut, the more is read. -/
theorem decode_take_mono {k₁ k₂ : Nat} (le : k₁ ≤ k₂) (bs : Bytes) :
    decode (bs.take k₁) true <+: decode (bs.take k₂) true :=
  run_mono (List.take_prefix_take_left le) .ready

/-- What is read of data that is cut is read of whole data as well. -/
theorem decode_cut_le_whole (bs : Bytes) : decode bs true <+: decode bs false := by
  rw [decode_whole_eq]
  exact List.prefix_append _ _

/-- Cut data is read as a beginning of what the whole is read as. -/
theorem decode_take_le_whole (k : Nat) (bs : Bytes) :
    decode (bs.take k) true <+: decode bs false :=
  (run_mono (List.take_prefix k bs) .ready).trans (decode_cut_le_whole bs)

/-! ## The end of whole data -/

/-- The data ends in the first two bytes of a surrogate. -/
def EndsInSurrogate (bs : Bytes) : Prop :=
  ∃ (front : Bytes) (b : UInt8), bs = front ++ [0xED, b] ∧ 0xA0 ≤ b.toNat ∧ b.toNat ≤ 0xBF

/-- The next byte is no greater than any byte that can go on with a character. -/
def State.Within : State → Prop
  | .partway _ _ _ high => high ≤ 0xBF
  | _ => True

theorem begin_within (b : UInt8) : (begin b).2.Within := by
  unfold begin
  dsimp only
  split
  · trivial
  split
  · trivial
  split
  · exact Nat.le_refl _
  split
  · show (if b.toNat = 0xED then 0x9F else 0xBF) ≤ 0xBF
    split <;> omega
  split
  · show (if b.toNat = 0xF4 then 0x8F else 0xBF) ≤ 0xBF
    split <;> omega
  · trivial

theorem step_within (s : State) (b : UInt8) : (step s b).2.Within := by
  cases s with
  | ready => exact begin_within b
  | surrogate => exact begin_within b
  | partway bits more low high =>
    unfold step
    dsimp only
    split
    · cases more with
      | zero => trivial
      | succ more => exact Nat.le_refl _
    · split
      · trivial
      · exact begin_within b

theorem run_within {s : State} (h : s.Within) (bs : Bytes) : (run s bs).2.Within := by
  induction bs generalizing s with
  | nil => exact h
  | cons b bs ih =>
    rw [run_cons]
    exact ih (step_within s b)

/-- After the byte `ED` it does not matter what was in hand before. -/
theorem step_lead {s : State} (h : s.Within) : (step s 0xED).2 = .partway 13 1 0x80 0x9F := by
  cases s with
  | ready => rfl
  | surrogate => rfl
  | partway bits more low high =>
    have high_le : high ≤ 0xBF := h
    have lead : (0xED : UInt8).toNat = 0xED := rfl
    unfold step
    dsimp only
    rw [lead, if_neg (by omega), if_neg (by omega)]
    rfl

/-- Only after the byte `ED` must the next one be less than `A0`. -/
theorem eq_lead_of_begin {b : UInt8} {bits more low : Nat}
    (h : (begin b).2 = .partway bits more low 0x9F) : b.toNat = 0xED := by
  unfold begin at h
  dsimp only at h
  split at h
  · exact nomatch h
  split at h
  · exact nomatch h
  split at h
  · have high : 0xBF = 0x9F := (State.partway.inj h).2.2.2
    omega
  split at h
  · have high : (if b.toNat = 0xED then 0x9F else 0xBF) = 0x9F := (State.partway.inj h).2.2.2
    by_contra other
    rw [if_neg other] at high
    omega
  split at h
  · have high : (if b.toNat = 0xF4 then 0x8F else 0xBF) = 0x9F := (State.partway.inj h).2.2.2
    split at high <;> omega
  · exact nomatch h

theorem eq_lead_of_step {s : State} {b : UInt8} {bits more low : Nat}
    (h : (step s b).2 = .partway bits more low 0x9F) : b.toNat = 0xED := by
  cases s with
  | ready => exact eq_lead_of_begin h
  | surrogate => exact eq_lead_of_begin h
  | partway bits' more' low' high' =>
    unfold step at h
    dsimp only at h
    split at h
    · cases more' with
      | zero => exact nomatch h
      | succ more' =>
        have high : 0xBF = 0x9F := (State.partway.inj h).2.2.2
        omega
    · split at h
      · exact nomatch h
      · exact eq_lead_of_begin h

theorem begin_ne_surrogate (b : UInt8) : (begin b).2 ≠ .surrogate := by
  unfold begin
  dsimp only
  intro h
  split at h
  · exact nomatch h
  split at h
  · exact nomatch h
  split at h
  · exact nomatch h
  split at h
  · exact nomatch h
  split at h <;> exact nomatch h

/-- What stands before a byte that makes a surrogate. -/
theorem of_step_eq_surrogate {s : State} {b : UInt8} (h : (step s b).2 = .surrogate) :
    (∃ bits more low, s = .partway bits more low 0x9F) ∧ 0xA0 ≤ b.toNat ∧ b.toNat ≤ 0xBF := by
  cases s with
  | ready => exact absurd h (begin_ne_surrogate b)
  | surrogate => exact absurd h (begin_ne_surrogate b)
  | partway bits more low high =>
    unfold step at h
    dsimp only at h
    split at h
    · cases more <;> exact nomatch h
    · split at h
      · next range =>
        obtain ⟨rfl, range⟩ := range
        exact ⟨⟨bits, more, low, rfl⟩, range⟩
      · exact absurd h (begin_ne_surrogate b)

theorem run_concat (s : State) (bs : Bytes) (b : UInt8) :
    (run s (bs ++ [b])).2 = (step (run s bs).2 b).2 := by
  rw [run_append, run_cons, run_nil]

/-- Whether a surrogate is in hand shows in the last two bytes. -/
theorem run_eq_surrogate_iff (bs : Bytes) :
    (run .ready bs).2 = .surrogate ↔ EndsInSurrogate bs := by
  constructor
  · intro h
    rcases List.eq_nil_or_concat bs with rfl | ⟨most, b, rfl⟩
    · exact nomatch h
    rw [List.concat_eq_append, run_concat] at h
    obtain ⟨⟨bits, more, low, before⟩, range⟩ := of_step_eq_surrogate h
    rcases List.eq_nil_or_concat most with rfl | ⟨front, a, rfl⟩
    · exact nomatch before
    rw [List.concat_eq_append, run_concat] at before
    have lead : a = 0xED := UInt8.toNat_inj.1 (eq_lead_of_step before)
    refine ⟨front, b, ?_, range⟩
    rw [lead]
    simp
  · rintro ⟨front, b, rfl, above, below⟩
    have split : front ++ [0xED, b] = front ++ [0xED] ++ [b] := by simp
    rw [split, run_concat, run_concat, step_lead (run_within (s := .ready) trivial front),
      step]
    dsimp only
    rw [if_neg (by omega), if_pos ⟨rfl, above, below⟩]

/-- Unless a surrogate is in hand, at most one character is. -/
theorem flush_of_ne_surrogate {s : State} (h : s ≠ .surrogate) :
    flush s = [] ∨ flush s = [replacement] := by
  cases s with
  | ready => exact Or.inl rfl
  | partway bits more low high => exact Or.inr rfl
  | surrogate => exact absurd rfl h

end Utf8
end Text

open Text

variable {bs : Bytes}

theorem decodeBody_whole (bs : Bytes) : decodeBody bs false =
    decodeBody bs true ++ String.ofList (Utf8.flush (Utf8.run .ready bs).2) := by
  rw [decodeBody, Utf8.decode_whole_eq, String.ofList_append]
  rfl

/-- Whole data has at most one character more than cut data, and it is a replacement. -/
theorem decodeBody_whole_of_not (h : ¬ Utf8.EndsInSurrogate bs) :
    decodeBody bs false = decodeBody bs true ∨
      decodeBody bs false = decodeBody bs true ++ "\uFFFD" := by
  rw [decodeBody_whole]
  rcases Utf8.flush_of_ne_surrogate (mt (Utf8.run_eq_surrogate_iff bs).1 h) with none | one
  · rw [none]
    exact Or.inl String.append_empty
  · rw [one]
    exact Or.inr rfl

/-- The two bytes of a surrogate are two replacements in whole data, and nothing in cut data. -/
theorem decodeBody_whole_of_endsInSurrogate (h : Utf8.EndsInSurrogate bs) :
    decodeBody bs false = decodeBody bs true ++ "\uFFFD\uFFFD" := by
  rw [decodeBody_whole, (Utf8.run_eq_surrogate_iff bs).2 h]
  rfl

/-- Only where there are no bytes is there no text. -/
theorem decodeBody_whole_eq_empty_iff : decodeBody bs false = "" ↔ bs = [] := by
  constructor
  · intro none
    by_contra some
    have chars : Utf8.decode bs false = [] := by
      rw [← toList_decodeBody, none]
      rfl
    exact Utf8.decode_whole_ne_nil some chars
  · rintro rfl
    rfl

end HttpTap
