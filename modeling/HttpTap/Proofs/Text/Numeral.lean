import HttpTap.Text.Integer

/-!
# Numbers that are written out are read again

A natural number that is written in base ten has digits only: no sign, no padding, no underscore
and no mark of a base.  Reading it takes its digits as they stand and gives the number again
(`decimal?_toString`), unless it has more digits than a numeral may have.
-/

namespace HttpTap
namespace Text

variable {c : Char} {cs : List Char}

theorem exists_of_isDigit (h : c.isDigit = true) :
    ∃ d < 10, c = Char.ofNat (48 + d) ∧ c.toNat = 48 + d := by
  obtain ⟨low, high⟩ : 48 ≤ c.toNat ∧ c.toNat ≤ 57 := by
    simpa [Char.isDigit, UInt32.le_iff_toNat_le] using h
  refine ⟨c.toNat - 48, by omega, ?_, by omega⟩
  rw [show 48 + (c.toNat - 48) = c.toNat by omega, Char.ofNat_toNat]

/-- A digit is nothing else that a numeral may hold, and stands for its value. -/
theorem digit_facts (h : c.isDigit = true) :
    isPadding c = false ∧ (c == '_') = false ∧ c ≠ '-' ∧ c ≠ '+' ∧
      digitIn? 10 c = some (c.toNat - '0'.toNat) := by
  obtain ⟨d, small, rfl, -⟩ := exists_of_isDigit h
  have each : ∀ d < 10, isPadding (Char.ofNat (48 + d)) = false ∧
      (Char.ofNat (48 + d) == '_') = false ∧ Char.ofNat (48 + d) ≠ '-' ∧
      Char.ofNat (48 + d) ≠ '+' ∧
      digitIn? 10 (Char.ofNat (48 + d)) = some ((Char.ofNat (48 + d)).toNat - '0'.toNat) := by
    decide
  exact each d small

theorem unpad_of_digits (digits : ∀ c ∈ cs, c.isDigit = true) : unpad cs = cs := by
  have stays : ∀ cs : List Char, (∀ c ∈ cs, c.isDigit = true) → cs.dropWhile isPadding = cs := by
    intro cs digits
    cases cs with
    | nil => rfl
    | cons c cs =>
      have first := (digit_facts (digits c List.mem_cons_self)).1
      exact List.dropWhile_cons_of_neg (by rw [first]; exact Bool.false_ne_true)
  rw [unpad, stays cs digits, stays cs.reverse fun c here => digits c (List.mem_reverse.1 here),
    List.reverse_reverse]

theorem groups_of_digits (digits : ∀ c ∈ cs, c.isDigit = true) : groups cs = [cs] := by
  induction cs with
  | nil => rfl
  | cons c cs ih =>
    obtain ⟨first, rest⟩ := List.forall_mem_cons.1 digits
    rw [groups, (digit_facts first).2.1, if_neg Bool.false_ne_true, ih rest]

theorem mapM_of_digits (digits : ∀ c ∈ cs, c.isDigit = true) :
    cs.mapM (digitIn? 10) = some (cs.map fun c => c.toNat - '0'.toNat) := by
  induction cs with
  | nil => rfl
  | cons c cs ih =>
    obtain ⟨first, rest⟩ := List.forall_mem_cons.1 digits
    rw [List.mapM_cons, (digit_facts first).2.2.2.2, ih rest]
    rfl

theorem ofDigits_map_digits (cs : List Char) :
    ofDigits 10 (cs.map fun c => c.toNat - '0'.toNat) = Nat.ofDigitChars 10 cs 0 := by
  rw [Nat.ofDigitChars_eq_foldl, ofDigits, List.foldl_map]
  simp only [Nat.mul_comm]

theorem dropBaseMark_ten (cs : List Char) : dropBaseMark 10 cs = cs := by
  unfold dropBaseMark
  split
  · exact if_neg (by simp [baseLetters])
  · rfl

/-- The number that some digits spell. -/
theorem numeral?_of_digits (digits : ∀ c ∈ cs, c.isDigit = true) (some_digits : cs ≠ []) :
    numeral? 10 cs =
      if cs.length ≤ maxDigits then some (Nat.ofDigitChars 10 cs 0) else none := by
  have spelled : numeralDigits? 10 cs = some (cs.map fun c => c.toNat - '0'.toNat) := by
    rw [numeralDigits?, groups_of_digits digits]
    have filled : [cs].any List.isEmpty = false := by simpa using some_digits
    rw [filled, if_neg Bool.false_ne_true, List.flatten_singleton, mapM_of_digits digits]
  have within : withinLimit 10 (cs.map fun c => c.toNat - '0'.toNat) =
      decide (cs.length ≤ maxDigits) := by
    simp [withinLimit]
  rw [numeral?, dropBaseMark_ten, spelled]
  dsimp only
  rw [within, ofDigits_map_digits]
  by_cases short : cs.length ≤ maxDigits
  · rw [if_pos short, if_pos (decide_eq_true short)]
  · rw [if_neg short, if_neg (by rw [decide_eq_false short]; exact Bool.false_ne_true)]

/-- Digits have no sign before them. -/
theorem integer?_of_digits (digits : ∀ c ∈ cs, c.isDigit = true) :
    integer? 10 cs = (numeral? 10 cs).map Int.ofNat := by
  rw [integer?, unpad_of_digits digits]
  split
  · rename_i ds
    exact absurd rfl (digit_facts (digits '-' List.mem_cons_self)).2.2.1
  · rename_i ds
    exact absurd rfl (digit_facts (digits '+' List.mem_cons_self)).2.2.2.1
  · rfl

/-- A number that was written out reads as itself, as long as it may be read at all. -/
theorem decimal?_toString (n : Nat) :
    decimal? (toString n) =
      if (Nat.toDigits 10 n).length ≤ maxDigits then some (n : Int) else none := by
  have digits (c : Char) (here : c ∈ Nat.toDigits 10 n) : c.isDigit = true :=
    Nat.isDigit_of_mem_toDigits (by decide) (by decide) here
  rw [decimal?, Nat.toString_eq_ofList_toDigits, String.toList_ofList, integer?_of_digits digits,
    numeral?_of_digits digits Nat.toDigits_ne_nil, Nat.ofDigitChars_ten_toDigits]
  split <;> rfl

end Text
end HttpTap
