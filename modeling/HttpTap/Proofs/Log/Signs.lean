import HttpTap.Log.Line
import Mathlib.Data.List.Basic

/-!
# Percent signs in what is written

What a field is filled with may have percent signs in it only if the value has some.  A number has
none in any form, however it is rounded and filled up.  A text has none but its own, quoted or not,
and what holds of texts holds of the parts of a line all together (`Parts.signless_whole`).  So for a
value it is enough to look at the forms that show characters of its own (`Value.signless`,
`sign_notMem_fieldForm?`).
-/

namespace HttpTap

/-! ## Numbers -/

namespace Number

/-- The digits of a number are digits. -/
theorem exists_digitChar {b n : Nat} {c : Char} (base : 1 < b) (mem : c ∈ Nat.toDigits b n) :
    ∃ k, c = Nat.digitChar k := by
  induction n using Nat.strongRecOn with
  | ind n ih =>
    rw [Nat.toDigits_eq_if base] at mem
    split at mem
    · exact ⟨n, List.mem_singleton.1 mem⟩
    · rename_i large
      rcases List.mem_append.1 mem with mem | mem
      · exact ih _ (Nat.div_lt_self (by omega) base) mem
      · exact ⟨_, List.mem_singleton.1 mem⟩

theorem sign_notMem_toDigits {b : Nat} (base : 1 < b) (n : Nat) : '%' ∉ Nat.toDigits b n := by
  intro mem
  obtain ⟨k, same⟩ := exists_digitChar base mem
  exact Nat.digitChar_ne '%' (by decide) same.symm

theorem sign_notMem_replicate {c : Char} (other : '%' ≠ c) (n : Nat) :
    '%' ∉ List.replicate n c := fun mem => other (List.eq_of_mem_replicate mem)

theorem sign_notMem_append {cs ds : List Char} (first : '%' ∉ cs) (second : '%' ∉ ds) :
    '%' ∉ cs ++ ds := fun mem => (List.mem_append.1 mem).elim first second

theorem sign_notMem_pointed {whole fraction : List Char} (keep : Bool) (first : '%' ∉ whole)
    (second : '%' ∉ fraction) : '%' ∉ pointed keep whole fraction := by
  unfold pointed
  split
  · exact first
  · exact sign_notMem_append first (List.not_mem_cons_of_ne_of_not_mem (by decide) second)

theorem sign_notMem_powerOfTen (exponent : Int) : '%' ∉ powerOfTen exponent := by
  have sign : '%' ∉ ['e', if exponent < 0 then '-' else '+'] := by
    split <;> decide
  exact sign_notMem_append (sign_notMem_append sign (sign_notMem_replicate (by decide) _))
    (sign_notMem_toDigits (by decide) _)

theorem sign_notMem_significant (num den count : Nat) :
    '%' ∉ (significant num den count).digits := by
  unfold significant
  split
  · exact sign_notMem_replicate (by decide) _
  · exact fun mem => sign_notMem_toDigits (by decide) _ (List.mem_of_mem_take mem)

theorem sign_notMem_fixedLayout (keep : Bool) (num den count : Nat) :
    '%' ∉ fixedLayout keep num den count := by
  have digits := sign_notMem_append
    (sign_notMem_replicate (c := '0') (by decide)
      (count + 1 - (Nat.toDigits 10 (roundedAt num den count)).length))
    (sign_notMem_toDigits (b := 10) (by decide) (roundedAt num den count))
  exact sign_notMem_pointed keep (fun mem => digits (List.mem_of_mem_take mem))
    fun mem => digits (List.mem_of_mem_drop mem)

section Decimal

variable {d : Decimal}

theorem sign_notMem_scientific (keep : Bool) (digits : '%' ∉ d.digits) :
    '%' ∉ d.scientific keep :=
  sign_notMem_append
    (sign_notMem_pointed keep (fun mem => digits (List.mem_of_mem_take mem))
      fun mem => digits (List.mem_of_mem_drop mem))
    (sign_notMem_powerOfTen _)

theorem sign_notMem_positional (keep : Bool) (digits : '%' ∉ d.digits) :
    '%' ∉ d.positional keep := by
  unfold Decimal.positional
  split
  · exact sign_notMem_pointed keep (by decide)
      (sign_notMem_append (sign_notMem_replicate (by decide) _) digits)
  · exact sign_notMem_pointed keep
      (sign_notMem_append (fun mem => digits (List.mem_of_mem_take mem))
        (sign_notMem_replicate (by decide) _))
      fun mem => digits (List.mem_of_mem_drop mem)

end Decimal

theorem dropZeros_subset (cs : List Char) : dropZeros cs ⊆ cs := fun _ mem =>
  List.mem_reverse.1 ((List.dropWhile_suffix _).subset (List.mem_reverse.1 mem))

theorem sign_notMem_generalLayout (keep : Bool) (num den count : Nat) :
    '%' ∉ generalLayout keep num den count := by
  have digits := sign_notMem_significant num den (max count 1)
  have trimmed : '%' ∉ ((significant num den (max count 1)).trimmed keep).digits := by
    unfold Decimal.trimmed
    dsimp only
    split
    · exact digits
    · exact fun mem => digits (dropZeros_subset _ mem)
  unfold generalLayout
  dsimp only
  split
  · exact sign_notMem_scientific keep trimmed
  · exact sign_notMem_positional keep trimmed

end Number

/-! ## Texts -/

namespace Text

open Number

theorem sign_notMem_numberEscape (n : Nat) : '%' ∉ numberEscape n := by
  have digits (width : Nat) : '%' ∉ hexDigits width n :=
    sign_notMem_append (sign_notMem_replicate (by decide) _) (sign_notMem_toDigits (by decide) _)
  unfold numberEscape
  split
  · exact sign_notMem_append (by decide) (digits 2)
  · split
    · exact sign_notMem_append (by decide) (digits 4)
    · exact sign_notMem_append (by decide) (digits 8)

theorem sign_notMem_quoteChar (mark : Char) {c : Char} (other : '%' ≠ c) :
    '%' ∉ quoteChar mark c := by
  have escape {cs : List Char} (short : shortEscape? mark c = some cs) : '%' ∉ cs := by
    unfold shortEscape? at short
    repeat' split at short
    all_goals first
      | (obtain rfl := Option.some.inj short; simp [other])
      | exact nomatch short
  unfold quoteChar
  split
  · rename_i short
    exact escape short
  · split
    · exact fun mem => other (List.mem_singleton.1 mem)
    · exact sign_notMem_numberEscape _

/-- Quoting makes no percent signs. -/
theorem sign_notMem_quoted {s : String} (text : '%' ∉ s.toList) : '%' ∉ (quoted s).toList := by
  have mark : '%' ∉ [quoteMark s.toList] := by
    unfold quoteMark
    split <;> decide
  have inner : '%' ∉ s.toList.flatMap (quoteChar (quoteMark s.toList)) := by
    intro mem
    obtain ⟨c, here, mem⟩ := List.mem_flatMap.1 mem
    exact sign_notMem_quoteChar _ (fun same => text (same ▸ here)) mem
  rw [quoted, String.toList_ofList, ← List.singleton_append, List.append_assoc]
  exact sign_notMem_append mark (sign_notMem_append inner mark)

theorem sign_notMem_intercalate {s : String} {ts : List String} (between : '%' ∉ s.toList)
    (texts : ∀ t ∈ ts, '%' ∉ t.toList) : '%' ∉ (s.intercalate ts).toList := by
  induction ts with
  | nil => exact (by decide : '%' ∉ "".toList)
  | cons t ts ih =>
    obtain ⟨first, rest⟩ := List.forall_mem_cons.1 texts
    cases ts with
    | nil =>
      rw [String.intercalate_singleton]
      exact first
    | cons u ts =>
      rw [String.intercalate_cons_cons, String.toList_append, String.toList_append]
      exact sign_notMem_append (sign_notMem_append first between) (ih rest)

end Text

namespace Log

open Number

variable {style : FieldStyle} {cs : List Char}

/-! ## Forms -/

theorem sign_notMem_filled (style : FieldStyle) (text : '%' ∉ cs) : '%' ∉ filled style cs := by
  have blanks := sign_notMem_replicate (c := ' ') (by decide) (style.width - cs.length)
  unfold filled
  dsimp only
  split
  · exact sign_notMem_append text blanks
  · exact sign_notMem_append blanks text

theorem sign_notMem_textForm (style : FieldStyle) {s : String} (text : '%' ∉ s.toList) :
    '%' ∉ textForm style s := by
  refine sign_notMem_filled style ?_
  cases style.precision with
  | none => exact text
  | some n => exact fun mem => text (List.mem_of_mem_take mem)

theorem sign_notMem_numberForm (style : FieldStyle) (negative : Bool) {mark digits : List Char}
    (first : '%' ∉ mark) (second : '%' ∉ digits) :
    '%' ∉ numberForm style negative mark digits := by
  refine sign_notMem_filled style (sign_notMem_append (sign_notMem_append ?_ ?_)
    (sign_notMem_append ?_ second))
  · repeat' split
    all_goals decide
  · split
    · exact first
    · exact List.not_mem_nil
  · split
    · exact sign_notMem_replicate (by decide) _
    · exact List.not_mem_nil

theorem sign_notMem_integerForm? {base : Nat} {mark : List Char} {n : Int} (large : 1 < base)
    (none : '%' ∉ mark) (written : integerForm? style base mark n = some cs) : '%' ∉ cs := by
  unfold integerForm? at written
  dsimp only at written
  split at written
  · obtain rfl := Option.some.inj written
    exact sign_notMem_numberForm style _ none
      (sign_notMem_append (sign_notMem_replicate (by decide) _) (sign_notMem_toDigits large _))
  · exact nomatch written

/-- No small letter has a percent sign as its capital. -/
theorem toUpper_ne_sign {c : Char} (other : c ≠ '%') : c.toUpper ≠ '%' := by
  intro same
  unfold Char.toUpper at same
  split at same
  · rename_i small
    have low := UInt32.le_iff_toNat_le.1 small.1
    have high := UInt32.le_iff_toNat_le.1 small.2
    have number := congrArg (fun c : Char => c.val.toNat) same
    dsimp only at number
    rw [UInt32.toNat_add] at number
    have step : ('A'.val - 'a'.val).toNat = 4294967264 := rfl
    have first : 'a'.val.toNat = 97 := rfl
    have last : 'z'.val.toNat = 122 := rfl
    have sign : '%'.val.toNat = 37 := rfl
    omega
  · exact other same

theorem sign_notMem_inCapitals (capitals : Bool) (text : '%' ∉ cs) :
    '%' ∉ inCapitals capitals cs := by
  unfold inCapitals
  split
  · intro mem
    obtain ⟨c, here, same⟩ := List.mem_map.1 mem
    exact toUpper_ne_sign (fun sign => text (sign ▸ here)) same
  · exact text

theorem sign_notMem_write (shape : Shape) (style : FieldStyle) (num den : Nat) :
    '%' ∉ shape.write style num den := by
  cases shape with
  | fixed => exact sign_notMem_fixedLayout _ _ _ _
  | scientific => exact sign_notMem_scientific _ (sign_notMem_significant _ _ _)
  | general => exact sign_notMem_generalLayout _ _ _ _

theorem sign_notMem_doubleForm (shape : Shape) (capitals : Bool) (style : FieldStyle)
    (x : Double) : '%' ∉ doubleForm shape capitals style x := by
  refine sign_notMem_numberForm style _ List.not_mem_nil (sign_notMem_inCapitals capitals ?_)
  cases x with
  | nan => exact (by decide : '%' ∉ ['n', 'a', 'n'])
  | infinite s => exact (by decide : '%' ∉ ['i', 'n', 'f'])
  | finite s m e => exact sign_notMem_write shape style _ _

theorem sign_notMem_asciiOnly {s : String} (text : '%' ∉ s.toList) :
    '%' ∉ (asciiOnly s).toList := by
  rw [asciiOnly, String.toList_ofList]
  intro mem
  obtain ⟨c, here, mem⟩ := List.mem_flatMap.1 mem
  split at mem
  · exact text (List.mem_singleton.1 mem ▸ here)
  · exact Text.sign_notMem_numberEscape _ mem

end Log

/-! ## Values -/

/-- The value has no percent sign in the forms that show characters of its own. -/
def Value.signless (v : Value) : Bool :=
  v.display?.all (fun s => !s.toList.contains '%') &&
    v.literal?.all (fun s => !s.toList.contains '%') && v.character? != some '%'

theorem Value.signless_iff {v : Value} : v.signless = true ↔
    (∀ s, v.display? = some s → '%' ∉ s.toList) ∧ (∀ s, v.literal? = some s → '%' ∉ s.toList) ∧
      v.character? ≠ some '%' := by
  simp only [signless, Bool.and_eq_true, Option.all_eq_true, Bool.not_eq_true',
    List.contains_eq_mem, decide_eq_false_iff_not, bne_iff_ne, and_assoc]

/-- A text has no signs but its own. -/
theorem Value.signless_text (s : String) : (text s).signless = !s.toList.contains '%' := by
  rw [Bool.eq_iff_iff, signless_iff, Bool.not_eq_true', List.contains_eq_mem,
    decide_eq_false_iff_not]
  constructor
  · exact fun none => none.1 s rfl
  · intro none
    refine ⟨fun t same => Option.some.inj same ▸ none, fun t same => ?_, fun same => ?_⟩
    · exact Option.some.inj same ▸ Text.sign_notMem_quoted none
    · unfold character? at same
      dsimp only at same
      split at same
      · rename_i c only
        exact none (only ▸ Option.some.inj same ▸ List.mem_singleton_self _)
      · exact nomatch same

/-- The written forms of entries, one after the other. -/
theorem Value.entryLiterals?_cons (k v : Value) (es : List (Value × Value)) :
    entryLiterals? ((k, v) :: es) = k.literal?.bind fun name => v.literal?.bind fun value =>
      (entryLiterals? es).map fun ts => (name ++ ": " ++ value) :: ts := by
  rw [entryLiterals?]
  cases k.literal? <;> cases v.literal? <;> cases entryLiterals? es <;> rfl

namespace Log

/-- All parts together have no signs if each of them has none. -/
theorem Parts.signless_whole {parts : Parts}
    (each : ∀ part ∈ parts, '%' ∉ part.1.toList ∧ part.2.signless = true) :
    parts.whole.signless = true := by
  have entries {ts : List String}
      (shown : Value.entryLiterals? (parts.map fun part => (.text part.1, part.2)) = some ts) :
      ∀ t ∈ ts, '%' ∉ t.toList := by
    induction parts generalizing ts with
    | nil =>
      obtain rfl := Option.some.inj shown
      exact fun t mem => absurd mem List.not_mem_nil
    | cons part parts ih =>
      obtain ⟨⟨nameless, signless⟩, rest⟩ := List.forall_mem_cons.1 each
      rw [List.map_cons, Value.entryLiterals?_cons] at shown
      obtain ⟨name, named, shown⟩ := Option.bind_eq_some_iff.1 shown
      obtain ⟨value, valued, shown⟩ := Option.bind_eq_some_iff.1 shown
      obtain ⟨us, others, rfl⟩ := Option.map_eq_some_iff.1 shown
      have first : '%' ∉ name.toList := Option.some.inj named ▸ Text.sign_notMem_quoted nameless
      refine List.forall_mem_cons.2 ⟨?_, ih rest others⟩
      rw [String.toList_append, String.toList_append]
      exact Number.sign_notMem_append (Number.sign_notMem_append first (by decide))
        ((Value.signless_iff.1 signless).2.1 value valued)
  have literal (s : String) (shown : parts.whole.literal? = some s) : '%' ∉ s.toList := by
    obtain ⟨ts, listed, rfl⟩ := Option.map_eq_some_iff.1 shown
    have inner := Text.sign_notMem_intercalate (s := ", ") (by decide) (entries listed)
    rw [String.toList_append, String.toList_append]
    exact Number.sign_notMem_append (Number.sign_notMem_append (by decide) inner) (by decide)
  exact Value.signless_iff.2 ⟨literal, literal, nofun⟩

/-- A value without signs has none in any form. -/
theorem sign_notMem_fieldForm? {style : FieldStyle} {form : Form} {v : Value} {cs : List Char}
    (signless : v.signless = true) (written : fieldForm? style form v = some cs) : '%' ∉ cs := by
  obtain ⟨said, described, character⟩ := Value.signless_iff.1 signless
  cases form with
  | said =>
    obtain ⟨s, shown, rfl⟩ := Option.map_eq_some_iff.1 written
    exact sign_notMem_textForm style (said s shown)
  | described =>
    obtain ⟨s, shown, rfl⟩ := Option.map_eq_some_iff.1 written
    exact sign_notMem_textForm style (described s shown)
  | ascii =>
    obtain ⟨s, shown, rfl⟩ := Option.map_eq_some_iff.1 written
    exact sign_notMem_textForm style (sign_notMem_asciiOnly (described s shown))
  | decimal =>
    obtain ⟨n, -, written⟩ := Option.bind_eq_some_iff.1 written
    exact sign_notMem_integerForm? (by decide) List.not_mem_nil written
  | octal =>
    obtain ⟨n, -, written⟩ := Option.bind_eq_some_iff.1 written
    exact sign_notMem_integerForm? (by decide) (by decide) written
  | hexadecimal capitals =>
    obtain ⟨cs, inner, rfl⟩ := Option.map_eq_some_iff.1 written
    obtain ⟨n, -, inner⟩ := Option.bind_eq_some_iff.1 inner
    exact sign_notMem_inCapitals capitals (sign_notMem_integerForm? (by decide) (by decide) inner)
  | character =>
    obtain ⟨c, shown, rfl⟩ := Option.map_eq_some_iff.1 written
    refine sign_notMem_filled style fun mem => character ?_
    rw [shown, List.mem_singleton.1 mem]
  | double shape capitals =>
    obtain ⟨x, -, rfl⟩ := Option.map_eq_some_iff.1 written
    exact sign_notMem_doubleForm shape capitals style x

end Log
end HttpTap
