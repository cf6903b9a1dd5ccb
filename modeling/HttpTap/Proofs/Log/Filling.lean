import HttpTap.Proofs.Log.Cutting
import HttpTap.Proofs.Log.Signs

/-!
# Filling a format

A format is filled piece by piece.  Pieces whose fields all have names come out the same whatever
was filled before them (`fill?_append`).  A line whose parts have no percent signs has as many of
them as its format has literal ones (`count_of_fill?`), so that a text that gives itself has none
(`sign_notMem_of_write?`).
-/

namespace HttpTap
namespace Log

section Fill

variable {parts : Parts} {due : Option Value} {ps qs : List Piece} {cs rest : List Char}

/-- Behind pieces come others that do not depend on what is due. -/
theorem fill?_append (filled : ∀ due, fill? parts due qs = some rest) (due : Option Value)
    (ps : List Piece) : fill? parts due (ps ++ qs) = (fill? parts due ps).map (· ++ rest) := by
  induction ps generalizing due with
  | nil => exact filled due
  | cons p ps ih =>
    cases p with
    | literal c =>
      simp only [List.cons_append, fill?, ih, Option.map_map, Function.comp_def]
    | field name style form =>
      simp only [List.cons_append, fill?, ih, Option.map_bind, Option.map_map, Function.comp_def,
        List.append_assoc]

theorem signless_part? (signless : ∀ part ∈ parts, part.2.signless = true) {name : List Char}
    {v : Value} (found : parts.part? name = some v) : v.signless = true := by
  obtain ⟨first, last, same, -⟩ := List.lookup_eq_some_iff.1 found
  exact signless _ (same ▸ List.mem_append_right _ List.mem_cons_self)

/-- In a line without signs of its own are those of the format. -/
theorem count_of_fill? (signless : ∀ part ∈ parts, part.2.signless = true)
    (whole : ∀ v, due = some v → v.signless = true) (written : fill? parts due ps = some cs) :
    cs.count '%' = ps.count (.literal '%') := by
  induction ps generalizing due cs with
  | nil =>
    obtain rfl := Option.some.inj written
    rfl
  | cons p ps ih =>
    cases p with
    | literal c =>
      obtain ⟨rest, filled, rfl⟩ := Option.map_eq_some_iff.1 written
      have same : (Piece.literal c == .literal '%') = (c == '%') := by
        rw [Bool.eq_iff_iff, beq_iff_eq, beq_iff_eq, Piece.literal.injEq]
      rw [List.count_cons, List.count_cons, ih whole filled, same]
    | field name style form =>
      obtain ⟨field, shown, written⟩ := Option.bind_eq_some_iff.1 written
      obtain ⟨rest, filled, rfl⟩ := Option.map_eq_some_iff.1 written
      obtain ⟨v, found, shown⟩ := Option.bind_eq_some_iff.1 shown
      have none : v.signless = true := by
        cases name with
        | none => exact whole v found
        | some name => exact signless_part? signless found
      have nothing (v : Value) (same : Option.none = some v) : v.signless = true := nomatch same
      have first := List.count_eq_zero.2 (sign_notMem_fieldForm? none shown)
      rw [List.count_append, first, Nat.zero_add, ih nothing filled,
        List.count_cons_of_ne (by simp)]

end Fill

/-! ## Texts as formats -/

theorem fill?_literal (parts : Parts) (due : Option Value) (cs : List Char) :
    fill? parts due (cs.map .literal) = some cs := by
  induction cs with
  | nil => rfl
  | cons c cs ih => rw [List.map_cons, fill?, ih, Option.map_some]

/-- A text without percent signs gives itself. -/
theorem write?_of_sign_notMem {lead : String} (literal : '%' ∉ lead.toList) (parts : Parts) :
    write? lead parts = some lead := by
  have cut : pieces? lead.toList = some (lead.toList.map .literal) := by
    rw [pieces?, Stage.run?_between literal]
    rfl
  rw [write?, cut, Option.bind_some, fill?_literal, Option.map_some, String.ofList_toList]

/-- A text that gives itself, filled with parts that have no percent signs, has none either. -/
theorem sign_notMem_of_write? {lead : String} {parts : Parts}
    (signless : ∀ part ∈ parts, '%' ∉ part.1.toList ∧ part.2.signless = true)
    (written : write? lead parts = some lead) : '%' ∉ lead.toList := by
  obtain ⟨cs, filled, same⟩ := Option.map_eq_some_iff.1 written
  obtain ⟨ps, cut, filled⟩ := Option.bind_eq_some_iff.1 filled
  obtain rfl : cs = lead.toList := by rw [← same, String.toList_ofList]
  have due (v : Value) (taken : some parts.whole = some v) : v.signless = true :=
    Option.some.inj taken ▸ Parts.signless_whole signless
  have left := count_of_fill? (fun part mem => (signless part mem).2) due filled
  have paid := count_of_pieces? cut
  exact List.count_eq_zero.1 (by omega)

end Log
end HttpTap
