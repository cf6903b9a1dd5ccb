import HttpTap.Proofs.Capture.Held
import HttpTap.Proofs.Span.Telling

/-!
# Recording a message

Recording the entity of a message swaps it first, if it was replaced, and puts attributes
afterwards.  Whatever becomes of the attributes, the swap stands: a sink may fail at any of them,
and the guard around the recording contains that (`go_recordMessage`).
-/

namespace HttpTap
namespace Act

open World

variable {w w₁ w₂ w₃ : World} {m : Ref Message}
  {e : Option (Ref Entity)} {result : RecordResult}

/-- What is left of a recording is told to spans and sinks. -/
theorem go_recordMessage (t : Target) (direction : String)
    {hook : Option (Ref Entity) → Act RecordResult}
    (entity : go (orNothing (messageEntity m) none) w = (.ok e, w₁))
    (hooked : go (hook e) w₁ = (.ok result, w₂))
    (swapped : go (if result.replaced then setMessageEntity m result.entity else pure ()) w₂ =
      (.ok (), w₃)) :
    ∃ w', go (recordMessage t m direction hook) w = (.ok (), w') ∧ w₃.Told w' := by
  have inner : go (do
        let result ← hook (← orNothing (messageEntity m) none)
        if result.replaced then setMessageEntity m result.entity
        putAttributes t result.attributes) w = go (putAttributes t result.attributes) w₃ := by
    rw [go_bind_of_ok entity, go_bind_of_ok hooked]
    cases replaced : result.replaced with
    | true =>
      rw [replaced, if_pos rfl] at swapped
      rw [if_pos rfl, go_bind_of_ok swapped]
    | false =>
      rw [replaced, if_neg Bool.false_ne_true] at swapped
      obtain rfl : w₂ = w₃ := (Prod.mk.inj swapped).2
      rfl
  have contained := (safe_putAttributes t result.attributes w₃ trivial).2
  rw [recordMessage]
  cases outcome : go (putAttributes t result.attributes) w₃ with
  | mk r w₄ =>
    have told : w₃.Told w₄ := (keeps_putAttributes t result.attributes).of_go outcome
    rw [outcome] at contained inner
    cases r with
    | ok u => exact ⟨w₄, by rw [go_attempt, inner], told⟩
    | error f =>
      refine ⟨_, go_attempt_of_error inner contained, told.trans ?_⟩
      exact told_say (.contained recorderChannel ("Failed to record " ++ direction ++ " body") f) w₄

/-- Recording the entity of a message is capturing it, swapping it if it was replaced, and telling
spans and sinks. -/
theorem go_recordMessage_of_capture (t : Target) (direction : String) (keys : BodyKeys)
    {limit : Int} {captured : CaptureResult}
    (entity : go (orNothing (messageEntity m) none) w = (.ok e, w₁))
    (capture : go (capture limit bufferChunkSize e) w₁ = (.ok captured, w₂))
    (swapped : go (if captured.replaced then setMessageEntity m captured.entity else pure ()) w₂ =
      (.ok (), w₃)) :
    ∃ w', go (recordMessage t m direction (recordEntity true limit keys)) w = (.ok (), w') ∧
      w₃.Told w' := by
  have hooked : go (recordEntity true limit keys e) w₁ =
      (.ok ⟨bodyAttributes keys captured.body, captured.entity, captured.replaced⟩, w₂) := by
    rw [recordEntity, if_pos rfl, go_bind_of_ok capture]
    rfl
  exact go_recordMessage t direction entity hooked swapped

theorem go_orNothing_of_ok {α : Type} {a : Act α} {x nothing : α} (h : go a w = (.ok x, w₁)) :
    go (orNothing a nothing) w = (.ok x, w₁) := by
  rw [orNothing, go_bind, go_observe, h]
  rfl

/-- A member that is missing counts as nothing. -/
theorem go_orNothing_of_member {α : Type} {a : Act α} {nothing : α} {o n : String}
    (h : go a w = (.error (.noMember o n), w₁)) : go (orNothing a nothing) w = (.ok nothing, w₁) := by
  rw [orNothing, go_bind, go_observe, h]
  rfl

end Act
end HttpTap
