import HttpTap.Log.Setup
import Mathlib.Data.List.Basic

/-!
# Cutting a format that has a prefix in it

The library writes its prefix into a format in front of a tail of its own, and the cutter goes
through both.  The first character of the tail is a bracket, and a bracket is a barrier: no field
goes on behind it, but for the name of a field, and a name that is still open swallows the tail
without an end.  So a field that begins in the prefix ends in the prefix, or the format is unsound
(`pieces?_append_tail`).

Of the percent signs of a format at most half come back as literal ones.  What carries this through
the cutter is that each stage inside a field has cost one sign (`Stage.count_of_run?`).
-/

namespace HttpTap
namespace Log

namespace Stage

variable {g g' : Stage} {cs ds : List Char} {ps : List Piece}

/-- A step that finishes no piece. -/
theorem run?_of_step? {c : Char} (step : g.step? c = some ([], g')) (cs : List Char) :
    g.run? (c :: cs) = g'.run? cs := by
  rw [run?, step, Option.bind_some]
  exact Option.map_id'

theorem run?_append (g : Stage) (cs ds : List Char) : g.run? (cs ++ ds) =
    (g.run? cs).bind fun (ps, g) => (g.run? ds).map fun (qs, g) => (ps ++ qs, g) := by
  induction cs generalizing g with
  | nil => exact Option.map_id'.symm
  | cons c cs ih =>
    rw [List.cons_append, run?, run?]
    rcases g.step? c with - | ⟨ps, g⟩
    · rfl
    dsimp only [Option.bind_some]
    rw [ih]
    rcases g.run? cs with - | ⟨qs, g⟩
    · rfl
    dsimp only [Option.bind_some, Option.map_some]
    cases g.run? ds with
    | none => rfl
    | some r => exact congrArg (fun ps => some (ps, r.2)) (List.append_assoc ..).symm

/-- A text without percent signs is no field. -/
theorem run?_between (literal : '%' ∉ cs) : between.run? cs = some (cs.map .literal, between) := by
  induction cs with
  | nil => rfl
  | cons c cs ih =>
    obtain ⟨other, rest⟩ := not_or.1 (mt List.mem_cons.2 literal)
    have step : between.step? c = some ([.literal c], between) :=
      if_neg fun same => other (beq_iff_eq.1 same).symm
    rw [run?, step]
    dsimp only [Option.bind_some]
    rw [ih rest]
    rfl

/-! ## The tail -/

/-- What stands in a format of the library behind the prefix. -/
def tail : List Char := ']' :: " %(levelname)s %(name)s: %(message)s".toList

/-- The pieces of the tail. -/
def tailPieces : List Piece :=
  [.literal ']', .literal ' ', .field (some "levelname".toList) .plain .said,
    .literal ' ', .field (some "name".toList) .plain .said,
    .literal ':', .literal ' ', .field (some "message".toList) .plain .said]

theorem run?_tail : between.run? tail = some (tailPieces, between) := by decide +kernel

/-- In a name a text without parentheses is read as it stands. -/
theorem run?_inName (depth : Nat) (read : List Char) (plain : '(' ∉ cs ∧ ')' ∉ cs)
    (ds : List Char) :
    (inName depth read).run? (cs ++ ds) = (inName depth (read ++ cs)).run? ds := by
  induction cs generalizing read with
  | nil => rw [List.nil_append, List.append_nil]
  | cons c cs ih =>
    obtain ⟨opens, noneOpen⟩ := not_or.1 (mt List.mem_cons.2 plain.1)
    obtain ⟨closes, noneCloses⟩ := not_or.1 (mt List.mem_cons.2 plain.2)
    have step : (inName depth read).step? c = some ([], inName depth (read ++ [c])) := by
      simp only [step?, beq_iff_eq, Ne.symm opens, Ne.symm closes, if_false]
    rw [List.cons_append, run?_of_step? step, ih _ ⟨noneOpen, noneCloses⟩, List.append_assoc,
      List.singleton_append]

/-- A text in parentheses is read as it stands as well. -/
theorem run?_inName_group (depth : Nat) (read : List Char) (plain : '(' ∉ cs ∧ ')' ∉ cs)
    (ds : List Char) : (inName depth read).run? ('(' :: (cs ++ ')' :: ds)) =
      (inName depth (read ++ ['('] ++ cs ++ [')'])).run? ds := by
  have opened : (inName depth read).step? '(' = some ([], inName (depth + 1) (read ++ ['('])) := rfl
  rw [run?_of_step? opened, run?_inName _ _ plain, run?_of_step? rfl]

/-- Each parenthesis that the tail opens it closes. -/
theorem run?_tail_inName (depth : Nat) (read : List Char) :
    ∃ read', (inName depth read).run? tail = some ([], inName depth read') := by
  have split : tail = "] %".toList ++ '(' :: ("levelname".toList ++ ')' :: ("s %".toList ++
      '(' :: ("name".toList ++ ')' :: ("s: %".toList ++ '(' :: ("message".toList ++
        ')' :: ("s".toList ++ [])))))) := by decide
  rw [split, run?_inName _ _ (by decide), run?_inName_group _ _ (by decide),
    run?_inName _ _ (by decide), run?_inName_group _ _ (by decide), run?_inName _ _ (by decide),
    run?_inName_group _ _ (by decide), run?_inName _ _ (by decide)]
  exact ⟨_, rfl⟩

/-- From between two fields to between two fields the tail leads only. -/
theorem between_of_run?_tail (h : g.run? tail = some (ps, between)) : g = between := by
  have barrier (h' : g.step? ']' = none) : g = between := by
    rw [tail, run?, h'] at h
    exact nomatch h
  cases g with
  | between => rfl
  | inName depth read =>
    obtain ⟨read', ran⟩ := run?_tail_inName depth read
    rw [ran] at h
    exact nomatch h
  | sign => exact barrier rfl
  | inFlags name style => exact barrier rfl
  | inWidth name style => exact barrier rfl
  | inPrecision name style read => exact barrier rfl
  | sized name style => exact barrier rfl

/-! ## Counting signs -/

/-- How many percent signs a stage has cost. -/
def begun : Stage → Nat
  | between => 0
  | _ => 1

theorem begun_le (g : Stage) : g.begun ≤ 1 := by
  cases g with
  | between => exact Nat.zero_le 1
  | _ => exact Nat.le_refl 1

/-- Inside a field no literal sign comes out. -/
def Silent (r : Cut) : Prop := ∀ ps g, r = some (ps, g) → ps.count (.literal '%') = 0

theorem silent_some (g : Stage) : Silent (some ([], g)) := by
  rintro ps g ⟨⟩
  rfl

theorem silent_map {α : Type} (a : Option α) (f : α → Stage) :
    Silent (a.map fun x => ([], f x)) := by
  intro ps g h
  obtain ⟨x, -, same⟩ := Option.map_eq_some_iff.1 h
  obtain ⟨rfl, -⟩ := Prod.mk.inj same
  rfl

section Field

variable (name : Option (List Char)) (style : FieldStyle) (c : Char)

theorem silent_atLetter : Silent (atLetter name style c) := by
  intro ps g h
  obtain ⟨form, -, same⟩ := Option.map_eq_some_iff.1 h
  obtain ⟨rfl, -⟩ := Prod.mk.inj same
  rfl

theorem silent_atSize : Silent (atSize name style c) := by
  unfold atSize
  split
  · exact silent_some _
  · exact silent_atLetter name style c

theorem silent_atPoint : Silent (atPoint name style c) := by
  unfold atPoint
  split
  · exact silent_some _
  · exact silent_atSize name style c

theorem silent_atWidth : Silent (atWidth name style c) := by
  unfold atWidth
  split
  · exact silent_map _ _
  · exact silent_atPoint name style c

theorem silent_atFlag : Silent (atFlag name style c) := by
  unfold atFlag
  split
  · exact silent_some _
  · exact silent_atWidth name style c

theorem silent_step?_inName (depth : Nat) (read : List Char) :
    Silent ((inName depth read).step? c) := by
  simp only [step?]
  split
  · cases depth <;> exact silent_some _
  · exact silent_some _

theorem silent_step?_inPrecision (read : Nat) :
    Silent ((inPrecision name style read).step? c) := by
  simp only [step?]
  split
  · exact silent_map _ _
  · exact silent_atSize name _ c

end Field

/-- A literal sign costs two signs of the format, and a stage inside a field one. -/
theorem count_of_step? {c : Char} (h : g.step? c = some (ps, g')) :
    2 * ps.count (.literal '%') + g'.begun ≤ g.begun + [c].count '%' := by
  have inside {r : Cut} (silent : Silent r) (begun : g.begun = 1) (result : r = some (ps, g')) :
      2 * ps.count (.literal '%') + g'.begun ≤ g.begun + [c].count '%' := by
    have none := silent ps g' result
    have most := g'.begun_le
    omega
  cases g with
  | between =>
    simp only [step?] at h
    split at h
    · rename_i sign
      obtain ⟨rfl, rfl⟩ := Prod.mk.inj (Option.some.inj h)
      rw [beq_iff_eq.1 sign]
      decide
    · rename_i other
      obtain ⟨rfl, rfl⟩ := Prod.mk.inj (Option.some.inj h)
      have none : [Piece.literal c].count (.literal '%') = 0 :=
        List.count_eq_zero.2 fun mem =>
          other (beq_iff_eq.2 (Piece.literal.inj (List.mem_singleton.1 mem)).symm)
      rw [none]
      exact Nat.zero_le _
  | sign =>
    simp only [step?] at h
    split at h
    · rename_i sign
      obtain ⟨rfl, rfl⟩ := Prod.mk.inj (Option.some.inj h)
      rw [beq_iff_eq.1 sign]
      decide
    · split at h
      · exact inside (silent_some _) rfl h
      · exact inside (silent_atFlag none .plain c) rfl h
  | inName depth read => exact inside (silent_step?_inName c depth read) rfl h
  | inFlags name style => exact inside (silent_atFlag name style c) rfl h
  | inWidth name style => exact inside (silent_atWidth name style c) rfl h
  | inPrecision name style read => exact inside (silent_step?_inPrecision name style c read) rfl h
  | sized name style => exact inside (silent_atLetter name style c) rfl h

/-- Of a text that is cut at least two signs go into each literal one. -/
theorem count_of_run? (h : g.run? cs = some (ps, g')) :
    2 * ps.count (.literal '%') + g'.begun ≤ g.begun + cs.count '%' := by
  induction cs generalizing g ps with
  | nil =>
    obtain ⟨rfl, rfl⟩ := Prod.mk.inj (Option.some.inj h)
    exact Nat.le_of_eq (Nat.zero_add _)
  | cons c cs ih =>
    obtain ⟨⟨first, middle⟩, step, rest⟩ := Option.bind_eq_some_iff.1 h
    obtain ⟨⟨last, g''⟩, ran, same⟩ := Option.map_eq_some_iff.1 rest
    obtain ⟨rfl, rfl⟩ := Prod.mk.inj same
    have first_le := count_of_step? step
    have last_le := ih ran
    rw [List.count_append, ← List.singleton_append, List.count_append]
    omega

end Stage

theorem finished?_eq_some_iff {r : Cut} {ps : List Piece} :
    finished? r = some ps ↔ r = some (ps, .between) := by
  constructor
  · intro finished
    unfold finished? at finished
    split at finished
    · rw [Option.some.inj finished]
    · exact nomatch finished
  · rintro rfl
    rfl

/-- A field is still open. -/
theorem finished?_of_ne {g : Stage} (inside : g ≠ .between) (ps : List Piece) :
    finished? (some (ps, g)) = none := by
  refine Option.eq_none_iff_forall_ne_some.2 fun qs finished => inside ?_
  exact (Prod.mk.inj (Option.some.inj (finished?_eq_some_iff.1 finished))).2

/-- A character in front that begins no field. -/
theorem pieces?_cons {c : Char} (other : c ≠ '%') (cs : List Char) :
    pieces? (c :: cs) = (pieces? cs).map (.literal c :: ·) := by
  have step : Stage.between.step? c = some ([.literal c], .between) :=
    if_neg fun same => other (beq_iff_eq.1 same)
  rw [pieces?, pieces?, Stage.run?, step]
  dsimp only [Option.bind_some]
  rcases Stage.between.run? cs with - | ⟨ps, g⟩
  · rfl
  · cases g <;> rfl

/-- A format with a prefix is sound exactly if the prefix is, and then its pieces are those of the
prefix and those of the tail. -/
theorem pieces?_append_tail (lead : List Char) :
    pieces? (lead ++ Stage.tail) = (pieces? lead).map (· ++ Stage.tailPieces) := by
  rw [pieces?, pieces?, Stage.run?_append]
  rcases Stage.between.run? lead with - | ⟨ps, g⟩
  · rfl
  dsimp only [Option.bind_some]
  by_cases ended : g = .between
  · rw [ended, Stage.run?_tail]
    rfl
  · -- The tail does not close the field.
    rw [finished?_of_ne ended]
    rcases ran : g.run? Stage.tail with - | ⟨qs, g'⟩
    · rfl
    · refine finished?_of_ne (fun ended' : g' = .between => ?_) _
      rw [ended'] at ran
      exact ended (Stage.between_of_run?_tail ran)

/-- Of the signs of a format at most half are literal. -/
theorem count_of_pieces? {format : List Char} {ps : List Piece} (cut : pieces? format = some ps) :
    2 * ps.count (.literal '%') ≤ format.count '%' := by
  have paid := Stage.count_of_run? (finished?_eq_some_iff.1 cut)
  exact Nat.le_trans (Nat.le_of_add_right_le paid) (Nat.le_of_eq (Nat.zero_add _))

end Log
end HttpTap
