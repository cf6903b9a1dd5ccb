import HttpTap.Proofs.Capture.Calm

/-!
# Nothing escapes a recorder

A recorder stands between a program and its own bodies, so it must not fail where the program would
not have failed.  Whatever an entity, a message or a sink does short of an interrupt, each of the
six ways of calling a recorder comes to a result, and an entity that was not replaced is the one
that was handed in (`recorder_contains`).

Nothing is assumed about the members of an entity: each may raise, now or at a later reading, and
its values may be of any type.  Neither is anything assumed about the settings, the size of a read
or the limit; a limit that allows no byte at all is a fault like every other one.
-/

namespace HttpTap
namespace Act

open World

variable {w : World}

/-- In a calm world a recorder comes to a result, leaves the world calm, and hands back what it did
not replace. -/
theorem recorder_contains (calm : w.Calm) (s : CaptureSettings) (limit chunk : Int)
    (e : Option (Ref Entity)) (t : Target) (m : Option (Ref Message)) :
    (∃ result w', go (capture limit chunk e) w = (.ok result, w') ∧ w'.Calm ∧
      (result.replaced = false → result.entity = e)) ∧
    (∃ result w', go (beforeSend s e) w = (.ok result, w') ∧ w'.Calm ∧
      (result.replaced = false → result.entity = e)) ∧
    (∃ result w', go (afterReceive s e) w = (.ok result, w') ∧ w'.Calm ∧
      (result.replaced = false → result.entity = e)) ∧
    (∃ w', go (onStart s t m) w = (.ok (), w') ∧ w'.Calm) ∧
    (∃ w', go (onEnd s t m) w = (.ok (), w') ∧ w'.Calm) ∧
    ∃ w', go (makeResponseRepeatable s m) w = (.ok (), w') ∧ w'.Calm := by
  obtain ⟨_, w₁, started, calm₁, -⟩ := (succeeds_onStart s t m).go calm
  obtain ⟨_, w₂, ended, calm₂, -⟩ := (succeeds_onEnd s t m).go calm
  obtain ⟨_, w₃, buffered, calm₃, -⟩ := (succeeds_makeResponseRepeatable s m).go calm
  refine ⟨(succeeds_capture limit chunk e).go calm, ?_, ?_, ⟨w₁, started, calm₁⟩,
    ⟨w₂, ended, calm₂⟩, w₃, buffered, calm₃⟩
  · exact (succeeds_recordEntity s.recordsRequests s.limit requestKeys e).go calm
  · exact (succeeds_recordEntity s.recordsResponses s.limit responseKeys e).go calm

/-- A stand-in without one member that is what it should be.  Its flag raises at first, its length
is a text, its descriptions raise, and its stream gives a number, then a fault, and has no close
method. -/
def hostileScript : EntityScript where
  name := "e"
  repeatable := ⟨[.error (.scripted .value "flag"), .ok (.text "")]⟩
  length := ⟨[.ok (.text "many")]⟩
  type := ⟨[.error (.scripted .key "type")]⟩
  encoding := ⟨[.error (.scripted .type "encoding")]⟩
  contents := [.ok (.standIn (.answers [.ok (.int 3), .error (.scripted .system "read")]) none
    false), .error (.scripted .memory "content")]
  opened := 0

/-- A world with such a stand-in, a message that owns it, and a sink that takes nothing. -/
def hostile : World := { World.empty with
  entities := Store.empty.set ⟨0⟩ (.scripted hostileScript)
  messages := Store.empty.set ⟨0⟩ (.plain (some ⟨0⟩) none)
  sinks := Store.empty.set ⟨0⟩ ⟨[], some 0⟩ }

theorem calm_hostile : hostile.Calm := by
  have script : hostileScript.Calm := by
    refine ⟨?_, ?_, ?_, ?_, ?_⟩ <;>
      simp [hostileScript, Readings.Calm, CalmItems, Contained, StreamPlan.Calm, Script.Calm,
        Fault.interrupts, Fault.kind]
  have message : (Message.plain (some ⟨0⟩) none).Calm := fun _ none => absurd none (by simp)
  have empty := (calm_empty.setEntity ⟨0⟩ (x := .scripted hostileScript) script).setMessage ⟨0⟩
    message
  exact empty.of_same rfl rfl rfl rfl

/-- The stand-in comes back from a capture, and recording its message ends without a fault. -/
theorem recorder_contains_hostile :
    (∃ result w', go (capture 4096 8192 (some ⟨0⟩)) hostile = (.ok result, w') ∧ w'.Calm ∧
      (result.replaced = false → result.entity = some ⟨0⟩)) ∧
    ∃ w', go (onStart { CaptureSettings.standard with requests := .bool true } (.sink ⟨0⟩)
      (some ⟨0⟩)) hostile = (.ok (), w') ∧ w'.Calm := by
  obtain ⟨captured, -, -, started, -⟩ := recorder_contains calm_hostile
    { CaptureSettings.standard with requests := .bool true } 4096 8192 (some ⟨0⟩) (.sink ⟨0⟩)
    (some ⟨0⟩)
  exact ⟨captured, started⟩

end Act
end HttpTap
