import HttpTap.Text.Blank
import HttpTap.Text.Letter
import HttpTap.Settings.Basic

/-!
# Reading a setting

A setting comes as a value: a text from the environment, or whatever a settings file holds.
Both readers look at what the value says (`Value.display?`), so that a setting means the same
whether it is written as a text or as the value that the text spells.

* A switch is one of eight words, blanks and case apart.
* A size is a decimal numeral above zero.  A truth value is no size, although it says a word.

An integer too long to be written out has no word to look at.  That is a fault for a switch and
an unusable setting for a size.
-/

namespace HttpTap
namespace Settings

open Text

/-- The words for on. -/
def onWords : List String := ["true", "1", "yes", "on"]

/-- The words for off. -/
def offWords : List String := ["false", "0", "no", "off"]

/-- What a word says about a switch, if it says anything. -/
def switchWord? (s : String) : Option Bool :=
  let word := small (trimmed s)
  if onWords.contains word then some true
  else if offWords.contains word then some false
  else none

/-- The position of a switch, if the value gives one. -/
def switch? : Value → Except Fault (Option Bool)
  | .bool b => .ok (some b)
  | .null => .ok none
  | v =>
    match v.display? with
    | some s => .ok (switchWord? s)
    | none => .error .numeralTooLong

/-- The size that a text gives. -/
def sizeNumeral? (s : String) : Option Int :=
  (decimal? (trimmed s)).filter (0 < ·)

/-- The size that a value gives. -/
def size? : Value → Option Int
  | .null | .bool _ => none
  | v => v.display?.bind sizeNumeral?

/-- A size is always usable as a limit. -/
theorem size?_pos {v : Value} {n : Int} (h : size? v = some n) : 0 < n := by
  have key : ∀ s, sizeNumeral? s = some n → 0 < n := fun s hs => by
    have := (Option.filter_eq_some_iff.1 hs).2
    simpa using this
  unfold size? at h
  split at h
  · simp at h
  · simp at h
  · obtain ⟨s, -, hs⟩ := Option.bind_eq_some_iff.1 h
    exact key s hs

end Settings
end HttpTap
