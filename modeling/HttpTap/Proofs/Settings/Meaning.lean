import HttpTap.Proofs.Text.Casing
import HttpTap.Proofs.Text.Numeral
import HttpTap.Settings.Reading

/-!
# A setting means what it says

A variable of the environment holds a text; an entry of a settings file may hold a truth value, a
number, or anything else.  The two readers treat them alike: a value means what the text means that
the value says (`switch?_eq`, `size?_eq`).  For most values this is how they
are read.  Truth values and nothing at all are read before they are asked what they say, and there
the words have to be looked up.

`settings_mean` puts this together with what else the readers promise: blanks around a text make no
difference, nor does the case of ASCII letters to a switch; a size is a limit that settings can be
made with; and a number that is written out reads as itself.
-/

namespace HttpTap
namespace Settings

open Text

variable {v : Value} {s t : String} {front back : String} {n : Nat}

/-! ## Values and what they say -/

/-- A switch is the word that the value says, also where it is not asked for. -/
theorem switch?_eq (v : Value) : switch? v =
    match v.display? with
    | some s => .ok (switchWord? s)
    | none => .error .numeralTooLong := by
  have words : switchWord? "True" = some true ∧ switchWord? "False" = some false ∧
      switchWord? "None" = none := by decide +kernel
  cases v with
  | null => exact congrArg Except.ok words.2.2.symm
  | bool b =>
    cases b with
    | true => exact congrArg Except.ok words.1.symm
    | false => exact congrArg Except.ok words.2.1.symm
  | _ =>
    unfold switch?
    rfl

/-- A size is the numeral that the value says; truth values and nothing say none. -/
theorem size?_eq (v : Value) : size? v = v.display?.bind sizeNumeral? := by
  have words : sizeNumeral? "True" = none ∧ sizeNumeral? "False" = none ∧
      sizeNumeral? "None" = none := by decide +kernel
  cases v with
  | null => exact words.2.2.symm
  | bool b =>
    cases b with
    | true => exact words.1.symm
    | false => exact words.2.1.symm
  | _ => simp only [size?]

theorem switch?_text (s : String) : switch? (.text s) = .ok (switchWord? s) := by
  rw [switch?_eq, Value.display?_text]

theorem size?_text (s : String) : size? (.text s) = sizeNumeral? s := by
  rw [size?_eq, Value.display?_text, Option.bind_some]

/-! ## Blanks and case -/

theorem trimmed_between_blanks (before : ∀ c ∈ front.toList, isBlank c = true)
    (behind : ∀ c ∈ back.toList, isBlank c = true) : trimmed (front ++ s ++ back) = trimmed s := by
  rw [trimmed, trimmed, String.toList_append, String.toList_append,
    trim_between_blanks before behind]

theorem switch?_congr (same : SameAscii s t) : switch? (.text s) = switch? (.text t) := by
  rw [switch?_text, switch?_text, switchWord?, switchWord?, small_trimmed_congr same]

/-! ## Sizes -/

theorem trim_of_digits {cs : List Char} (digits : ∀ c ∈ cs, c.isDigit = true) : trim cs = cs := by
  have stays (cs : List Char) (digits : ∀ c ∈ cs, c.isDigit = true) : trimStart cs = cs := by
    cases cs with
    | nil => rfl
    | cons c cs =>
      obtain ⟨d, small, rfl, -⟩ := exists_of_isDigit (digits c List.mem_cons_self)
      have each : ∀ d < 10, isBlank (Char.ofNat (48 + d)) = false := by decide
      exact trimStart_cons_other (each d small)
  rw [trim, trimEnd, stays cs digits, stays cs.reverse fun c here =>
    digits c (List.mem_reverse.1 here), List.reverse_reverse]

/-- A number above zero that is written out is the size that it is. -/
theorem size?_toString (pos : 0 < n) (short : (Nat.toDigits 10 n).length ≤ maxDigits) :
    size? (.text (toString n)) = some (n : Int) := by
  have digits (c : Char) (here : c ∈ (toString n).toList) : c.isDigit = true := by
    rw [Nat.toString_eq_ofList_toDigits, String.toList_ofList] at here
    exact Nat.isDigit_of_mem_toDigits (by decide) (by decide) here
  have untouched : trimmed (toString n) = toString n := by
    rw [trimmed, trim_of_digits digits, String.ofList_toList]
  rw [size?_text, sizeNumeral?, untouched, decimal?_toString, if_pos short]
  exact Option.filter_some_pos (decide_eq_true (Int.natCast_pos.2 pos))

/-- Settings can be made with every size. -/
theorem exists_make_of_size? {m : Int} (read : size? v = some m) (a b : Value) :
    ∃ c, CaptureSettings.make a b (.int m) = .ok c ∧ c.limit = m :=
  ⟨⟨a, b, m, size?_pos read⟩, dif_pos (size?_pos read), rfl⟩

/-! ## Both readers -/

/-- A value means what the text means that it says, as a switch and as a size.  Blanks around a text
make no difference to either, and the case of ASCII letters makes none to a switch.  A size is above
zero and accepted as a limit, and every number above zero that may be written out is a size. -/
theorem settings_mean :
    (∀ v s, v.display? = some s → switch? v = switch? (.text s) ∧ size? v = size? (.text s)) ∧
    (∀ front s back : String, (∀ c ∈ front.toList, isBlank c = true) →
      (∀ c ∈ back.toList, isBlank c = true) →
      switch? (.text (front ++ s ++ back)) = switch? (.text s) ∧
        size? (.text (front ++ s ++ back)) = size? (.text s)) ∧
    (∀ s t, SameAscii s t → switch? (.text s) = switch? (.text t)) ∧
    (∀ v m, size? v = some m → 0 < m ∧
      ∀ a b, ∃ c, CaptureSettings.make a b (.int m) = .ok c ∧ c.limit = m) ∧
    ∀ n : Nat, 0 < n → (Nat.toDigits 10 n).length ≤ maxDigits →
      size? (.text (toString n)) = some (n : Int) := by
  refine ⟨?_, ?_, fun s t => switch?_congr, ?_, fun n => size?_toString⟩
  · intro v s shown
    constructor
    · rw [switch?_eq, shown, switch?_text]
    · rw [size?_eq, shown, size?_text, Option.bind_some]
  · intro front s back before behind
    have same := trimmed_between_blanks (s := s) before behind
    constructor
    · rw [switch?_text, switch?_text, switchWord?, switchWord?, same]
    · rw [size?_text, size?_text, sizeNumeral?, sizeNumeral?, same]
  · exact fun v m read => ⟨size?_pos read, exists_make_of_size? read⟩

/-- A truth value, a word in three spellings, a size with a sign and underscores, and a number. -/
theorem settings_mean_spellings :
    switch? (.bool true) = switch? (.text "True") ∧
    switch? (.text (" \t" ++ "On" ++ "\n")) = switch? (.text "On") ∧
    switch? (.text "On") = switch? (.text "oN") ∧
    (∃ c, CaptureSettings.make .null (.int 1) (.int 8192) = .ok c ∧ c.limit = 8192) ∧
    size? (.text (toString 4096)) = some 4096 := by
  obtain ⟨shown, blanks, letters, limits, numbers⟩ := settings_mean
  have size : size? (.text "+8_192") = some 8192 := by
    rw [size?_text]
    decide +kernel
  refine ⟨(shown (.bool true) "True" (Value.display?_bool true)).1, ?_, ?_, ?_, ?_⟩
  · have before : " \t".toList.all isBlank = true := by decide +kernel
    have behind : "\n".toList.all isBlank = true := by decide +kernel
    exact (blanks " \t" "On" "\n" (List.all_eq_true.1 before) (List.all_eq_true.1 behind)).1
  · exact letters "On" "oN" (show _ = _ by decide)
  · exact (limits (.text "+8_192") 8192 size).2 .null (.int 1)
  · exact numbers 4096 (by decide) (by decide +kernel)

end Settings
end HttpTap
