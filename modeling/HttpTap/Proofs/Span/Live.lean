import HttpTap.Proofs.Span.Reporting

/-!
# What a recording span keeps

A recording span never fails.  So whatever is done to it is a function from spans to spans:
`LiveSpan.putAll` for attributes, `LiveSpan.tell` for the status of a response, `LiveSpan.finish`
for its end.  The lemmas say so of the actions.

Two spans are alike if they agree in all that they keep, the one under which they were started aside
(`LiveSpan.Like`).  Alike spans that are told the same stay alike.
-/

namespace HttpTap

namespace LiveSpan

variable {x y : LiveSpan}

/-- The span after attributes were put one after the other. -/
def putAll (x : LiveSpan) (attributes : List (String × Value)) : LiveSpan :=
  attributes.foldl (fun x a => x.setAttribute a.1 a.2) x

/-- The span after it was told the status of a response. -/
def tell (x : LiveSpan) (status : Value) : LiveSpan :=
  match status.integer? with
  | none => x
  | some n =>
    let told := x.setAttribute Act.statusKey status
    if 400 ≤ n then ((Act.statusText n).toOption.map told.setError).getD told else told

/-- The same name, attributes, status and events; the two may have been started under different
spans. -/
def Like (x y : LiveSpan) : Prop := ∃ parent, y = { x with parent := parent }

namespace Like

theorem setAttribute (alike : x.Like y) (key : String) (v : Value) :
    (x.setAttribute key v).Like (y.setAttribute key v) := by
  obtain ⟨parent, rfl⟩ := alike
  obtain ⟨_, _, _, _, _, _, _, ended, _⟩ := x
  cases ended <;> exact ⟨parent, rfl⟩

theorem setError (alike : x.Like y) (description : String) :
    (x.setError description).Like (y.setError description) := by
  obtain ⟨parent, rfl⟩ := alike
  obtain ⟨_, _, _, _, _, _, _, ended, _⟩ := x
  cases ended <;> exact ⟨parent, rfl⟩

theorem finish (alike : x.Like y) : x.finish.Like y.finish := by
  obtain ⟨parent, rfl⟩ := alike
  obtain ⟨_, _, _, _, _, _, _, ended, _⟩ := x
  cases ended <;> exact ⟨parent, rfl⟩

theorem putAll (alike : x.Like y) (attributes : List (String × Value)) :
    (x.putAll attributes).Like (y.putAll attributes) := by
  induction attributes generalizing x y with
  | nil => exact alike
  | cons a as ih => exact ih (alike.setAttribute a.1 a.2)

theorem tell (alike : x.Like y) (status : Value) : (x.tell status).Like (y.tell status) := by
  unfold LiveSpan.tell
  cases status.integer? with
  | none => exact alike
  | some n =>
    dsimp only
    split
    · cases Act.statusText n with
      | error f => exact alike.setAttribute _ _
      | ok text => exact (alike.setAttribute _ _).setError text
    · exact alike.setAttribute _ _

end Like

end LiveSpan

namespace Act

open World

variable {w : World} {r : Ref Span} {x : LiveSpan} {m : Ref Message} {status : Value}

theorem go_setAttribute_of_live (live : w.spans.get r = .live x) (key : String) (v : Value) :
    ∃ w', go (setAttribute r key v) w = (.ok (), w') ∧
      w'.spans.get r = .live (x.setAttribute key v) := by
  refine ⟨{ w with spans := w.spans.set r (.live (x.setAttribute key v)) }, ?_,
    Store.get_set_same _ _ _⟩
  rw [setAttribute, go_bind, go_view, live]
  rfl

theorem go_setError_of_live (live : w.spans.get r = .live x) (description : String) :
    ∃ w', go (setError r description) w = (.ok (), w') ∧
      w'.spans.get r = .live (x.setError description) := by
  refine ⟨{ w with spans := w.spans.set r (.live (x.setError description)) }, ?_,
    Store.get_set_same _ _ _⟩
  rw [setError, go_bind, go_view, live]
  rfl

theorem go_finishSpan_of_live (live : w.spans.get r = .live x) :
    ∃ w', go (finishSpan r) w = (.ok (), w') ∧ w'.spans.get r = .live x.finish := by
  rw [finishSpan, go_bind, go_view, live]
  show ∃ w', go (if x.recording && !x.ended then _ else _)
    { w with spans := w.spans.set r (.live x.finish) } = (.ok (), w') ∧ _
  split
  · exact ⟨_, rfl, Store.get_set_same _ _ _⟩
  · exact ⟨_, rfl, Store.get_set_same _ _ _⟩

theorem go_putAttributes_of_live (live : w.spans.get r = .live x)
    (attributes : List (String × Value)) :
    ∃ w', go (putAttributes (.span r) attributes) w = (.ok (), w') ∧
      w'.spans.get r = .live (x.putAll attributes) := by
  induction attributes generalizing w x with
  | nil => exact ⟨w, rfl, live⟩
  | cons a as ih =>
    obtain ⟨w₁, put, live₁⟩ := go_setAttribute_of_live live a.1 a.2
    obtain ⟨w₂, puts, live₂⟩ := ih live₁
    have step : go (putAttributes (.span r) (a :: as)) w =
        go (setAttribute r a.1 a.2 >>= fun _ => putAttributes (.span r) as) w := rfl
    exact ⟨w₂, (step.trans (go_bind_of_ok put _)).trans puts, live₂⟩

/-- Behind its guard telling the status comes to what the span keeps of it. -/
theorem go_tellStatus_of_live (live : w.spans.get r = .live x)
    (read : w.statusResult (w.messages.get m) = .ok status) :
    ∃ w', go (attempt (tellStatus r (some m)) fun f =>
        say (.contained handlerChannel "Failed to set span status from response" f)) w =
          (.ok (), w') ∧ w'.spans.get r = .live (x.tell status) := by
  rw [go_attempt, tellStatus, go_bind, go_messageStatus, read, LiveSpan.tell]
  dsimp only
  cases status.integer? with
  | none => exact ⟨w, rfl, live⟩
  | some n =>
    obtain ⟨w₁, told, live₁⟩ := go_setAttribute_of_live live statusKey status
    dsimp only
    rw [go_bind_of_ok told]
    by_cases error : 400 ≤ n
    · rw [if_pos error, if_pos error, go_bind, go_lift]
      cases text : statusText n with
      | ok d =>
        obtain ⟨w₂, set, live₂⟩ := go_setError_of_live live₁ d
        dsimp only
        rw [set]
        exact ⟨w₂, rfl, live₂⟩
      | error f =>
        -- a number that cannot be written is contained, and the span keeps the number
        have contained := contained_statusText n
        rw [text] at contained
        dsimp only
        rw [if_neg (by rw [show f.interrupts = false from contained]; exact Bool.false_ne_true)]
        exact ⟨_, rfl, live₁⟩
    · rw [if_neg error, if_neg error]
      exact ⟨w₁, rfl, live₁⟩

/-- A recording span is told the status of a response and ends, and nobody else is told. -/
theorem go_closeSpan_of_live (live : w.spans.get r = .live x)
    (read : w.statusResult (w.messages.get m) = .ok status) :
    ∃ w', go (closeSpan r (some m)) w = (.ok (), w') ∧ w.Told w' ∧
      w'.spans.get r = .live (x.tell status).finish := by
  obtain ⟨w₁, told, live₁⟩ := go_tellStatus_of_live live read
  obtain ⟨w₂, finished, live₂⟩ := go_finishSpan_of_live live₁
  refine ⟨w₂, ?_, ?_, live₂⟩
  · rw [closeSpan, go_ensuring, told]
    dsimp only
    rw [finished]
  · exact (((keeps_tellStatus (R := Told) r (some m)).attempt fun _ => told_say _).of_go told).trans
      ((keeps_finishSpan (R := Told) r).of_go finished)

end Act
end HttpTap
