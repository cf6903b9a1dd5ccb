import HttpTap.Text.Blank
import HttpTap.Text.Letter

/-!
# The case of ASCII letters

Small letters are found one character at a time, but for the sigma, whose small form depends on the
letters around it.  What counts there is which characters are letters with a case and which are
looked through, and an ASCII letter is the former in capitals and in small letters alike.  So the
case of ASCII letters makes no difference to the small form of a text (`small_trimmed_congr`), not even
where a sigma stands between them.  Blanks are no letters, so the same holds after trimming.
-/

namespace HttpTap
namespace Text

/-- Two texts are the same but for the case of the ASCII letters in them. -/
def SameAscii (s t : String) : Prop :=
  s.toList.map Char.toLower = t.toList.map Char.toLower

/-- An ASCII capital is one of twenty-six, every other character is left alone. -/
theorem toLower_cases (c : Char) : (∃ k < 26, c = Char.ofNat (65 + k)) ∨ c.toLower = c := by
  by_cases capital : c.val ≥ 'A'.val ∧ c.val ≤ 'Z'.val
  · have low : 65 ≤ c.toNat := UInt32.le_iff_toNat_le.1 capital.1
    have high : c.toNat ≤ 90 := UInt32.le_iff_toNat_le.1 capital.2
    refine .inl ⟨c.toNat - 65, by omega, ?_⟩
    rw [show 65 + (c.toNat - 65) = c.toNat by omega, Char.ofNat_toNat]
  · exact .inr (dif_neg capital)

/-- To everything that is asked about a character, an ASCII capital is what its small letter is. -/
theorem toLower_facts (c : Char) :
    isBlank c.toLower = isBlank c ∧ isCased c.toLower = isCased c ∧
      isTransparent c.toLower = isTransparent c ∧ (c.toLower = 'Σ' ↔ c = 'Σ') ∧
      smallOf c.toLower = smallOf c := by
  rcases toLower_cases c with ⟨k, small, rfl⟩ | same
  · have each : ∀ k < 26, isBlank (Char.ofNat (65 + k)).toLower = isBlank (Char.ofNat (65 + k)) ∧
        isCased (Char.ofNat (65 + k)).toLower = isCased (Char.ofNat (65 + k)) ∧
        isTransparent (Char.ofNat (65 + k)).toLower = isTransparent (Char.ofNat (65 + k)) ∧
        ((Char.ofNat (65 + k)).toLower = 'Σ' ↔ Char.ofNat (65 + k) = 'Σ') ∧
        smallOf (Char.ofNat (65 + k)).toLower = smallOf (Char.ofNat (65 + k)) := by
      decide +kernel
    exact each k small
  · rw [same]
    exact ⟨rfl, rfl, rfl, Iff.rfl, rfl⟩

variable (cs : List Char)

theorem goesOn_map_toLower : goesOn (cs.map Char.toLower) = goesOn cs := by
  have through : isTransparent ∘ Char.toLower = isTransparent :=
    funext fun c => (toLower_facts c).2.2.1
  have letter (c : Char) : isCased c.toLower = isCased c := (toLower_facts c).2.1
  rw [goesOn, goesOn, List.dropWhile_map, through, List.head?_map, Option.any_map]
  simp only [letter]

theorem smallChars_map_toLower (inWord : Bool) :
    smallChars inWord (cs.map Char.toLower) = smallChars inWord cs := by
  induction cs generalizing inWord with
  | nil => rfl
  | cons c cs ih =>
    obtain ⟨-, cased, transparent, sigma, image⟩ := toLower_facts c
    simp only [List.map_cons, smallChars, goesOn_map_toLower, ih, cased, transparent, sigma, image]

theorem trimStart_map_toLower :
    trimStart (cs.map Char.toLower) = (trimStart cs).map Char.toLower := by
  have blank : isBlank ∘ Char.toLower = isBlank := funext fun c => (toLower_facts c).1
  rw [trimStart, trimStart, List.dropWhile_map, blank]

theorem trim_map_toLower : trim (cs.map Char.toLower) = (trim cs).map Char.toLower := by
  rw [trim, trim, trimEnd, trimEnd, trimStart_map_toLower, ← List.map_reverse,
    trimStart_map_toLower, List.map_reverse]

/-- The case of ASCII letters makes no difference to the small form of a trimmed text. -/
theorem small_trimmed_congr {s t : String} (same : SameAscii s t) :
    small (trimmed s) = small (trimmed t) := by
  have both (s : String) : small (trimmed s) =
      String.ofList (smallChars false (trim (s.toList.map Char.toLower))) := by
    rw [small, trimmed, String.toList_ofList, trim_map_toLower, smallChars_map_toLower]
  rw [both s, both t, same]

/-- A sigma ends its word whatever the case of the letter before it. -/
example : small "AΣ" = "aς" ∧ small "aΣ" = "aς" := by decide +kernel

end Text
end HttpTap
