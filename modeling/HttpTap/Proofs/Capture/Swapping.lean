import HttpTap.Proofs.Span.Telling

/-!
# Swapping an entity

A recorder consults the entity of a message.  When the entity was replaced by a copy, the recorder
assigns the copy to the message, which then keeps its sort and its status.  A `ReadingFrame` that
allows this as well is a `SwappingFrame`.

What a recorder does to a message falls in two: `attributesOf` consults and swaps, and stays within
every such frame, and the attributes that it gives are put afterwards (`recordMessage_eq`).  So only
the second part has to do with the span.
-/

namespace HttpTap

namespace World

/-- A reading frame that allows an entity to be assigned to a message besides. -/
class SwappingFrame (R : World → World → Prop) : Prop extends ReadingFrame R where
  setHeld : ∀ w m e status,
    (w.messages.get m = .bare status ∨ ∃ x, w.messages.get m = .plain x status) →
      R w { w with messages := w.messages.set m (.plain e status) }
  setRequest : ∀ w q x, R w { w with requests := w.requests.set q x }
  setContent : ∀ w p content, R w { w with
    responses := w.responses.set p { w.responses.get p with content := content, consumed := true } }

end World

namespace Act

open World

variable {R : World → World → Prop}

/-! ## Assigning -/

section Assigning

variable [SwappingFrame R]

theorem keeps_changeRequest (q : Ref Request) (f : Request → Request) :
    Keeps R (changeRequest q f) :=
  keeps_change fun w => SwappingFrame.setRequest w q _

theorem keeps_changeHeaders (q : Ref Request) (f : Headers → Headers) :
    Keeps R (changeHeaders q f) := by
  refine (keeps_view _).bind fun request => ?_
  split
  · exact keeps_throw _
  · exact keeps_changeRequest q _

theorem keeps_installBody (q : Option (Ref Request)) (body : Value) :
    Keeps R (installBody q body) := by
  cases q with
  | none => exact keeps_throw _
  | some q =>
    refine (keeps_changeRequest q _).bind fun _ => (keeps_changeHeaders q _).bind fun _ => ?_
    exact (keeps_lift _).bind fun n => keeps_changeHeaders q _

theorem keeps_installContent (p : Option (Ref Response)) (content : Value) :
    Keeps R (installContent p content) := by
  cases p with
  | none => exact keeps_throw _
  | some p => exact keeps_change fun w => SwappingFrame.setContent w p _

/-- Assigning an entity to a message stays within the frame, whatever the message is. -/
theorem keeps_setMessageEntity (m : Ref Message) (e : Option (Ref Entity)) :
    Keeps R (setMessageEntity m e) := by
  intro w
  rw [setMessageEntity, go_bind, go_view]
  cases message : w.messages.get m with
  | plain x status => exact SwappingFrame.setHeld w m e status (.inr ⟨x, message⟩)
  | bare status => exact SwappingFrame.setHeld w m e status (.inl message)
  | readOnly x status => exact keeps_throw _ w
  | broken f status => exact keeps_throw _ w
  | request q =>
    cases e with
    | none => exact keeps_pure _ w
    | some e => exact (keeps_entityBytes e).bind (fun body => keeps_installBody q body) w
  | response p =>
    cases e with
    | none => exact keeps_pure _ w
    | some e => exact (keeps_entityBytes e).bind (fun content => keeps_installContent p content) w

/-- Buffering the entity of a response consults it and swaps it. -/
theorem keeps_makeResponseRepeatable (s : CaptureSettings) (m : Option (Ref Message)) :
    Keeps R (makeResponseRepeatable s m) := by
  cases m with
  | none => exact keeps_pure _
  | some m =>
    unfold makeResponseRepeatable
    dsimp only
    split
    · refine Keeps.attempt ?_ fun f => keeps_say _
      refine (keeps_messageEntity m).bind fun e => ?_
      cases e with
      | none => exact keeps_pure _
      | some e =>
        refine (keeps_repeatable e).bind fun flag => ?_
        split
        · exact keeps_pure _
        · refine (keeps_makeRepeatable e bufferChunkSize).bind fun result => ?_
          split
          · exact keeps_setMessageEntity m _
          · exact keeps_pure _
    · exact keeps_pure _

end Assigning

/-! ## Recording -/

/-- The first part of a recording: the entity is captured, and swapped if it was replaced. -/
def attributesOf (m : Ref Message) (hook : Option (Ref Entity) → Act RecordResult) :
    Act (List (String × Value)) := do
  let result ← hook (← orNothing (messageEntity m) none)
  if result.replaced then setMessageEntity m result.entity
  return result.attributes

/-- Recording a message is getting the attributes and putting them, behind a guard. -/
theorem recordMessage_eq (t : Target) (m : Ref Message) (direction : String)
    (hook : Option (Ref Entity) → Act RecordResult) :
    recordMessage t m direction hook = attempt (attributesOf m hook >>= putAttributes t) fun f =>
      say (.contained recorderChannel ("Failed to record " ++ direction ++ " body") f) := by
  have parts : attributesOf m hook >>= putAttributes t = (do
      let result ← hook (← orNothing (messageEntity m) none)
      if result.replaced then setMessageEntity m result.entity
      putAttributes t result.attributes) := by
    rw [attributesOf, bind_assoc]
    refine congrArg _ (funext fun e => ?_)
    rw [bind_assoc]
    refine congrArg _ (funext fun result => ?_)
    by_cases replaced : result.replaced = true
    · rw [if_pos replaced, if_pos replaced, bind_assoc]
      refine congrArg _ (funext fun u => ?_)
      rw [pure_bind]
    · rw [if_neg replaced, if_neg replaced, pure_bind]
  rw [recordMessage, parts]

theorem keeps_recordEntity [ReadingFrame R] (enabled : Bool) (limit : Int) (keys : BodyKeys)
    (e : Option (Ref Entity)) : Keeps R (recordEntity enabled limit keys e) := by
  unfold recordEntity
  split
  · exact (keeps_capture limit bufferChunkSize e).bind fun _ => keeps_pure _
  · exact keeps_pure _

variable [SwappingFrame R]

theorem keeps_attributesOf (m : Ref Message) {hook : Option (Ref Entity) → Act RecordResult}
    (hooked : ∀ e, Keeps R (hook e)) : Keeps R (attributesOf m hook) := by
  refine (keeps_orNothing (keeps_messageEntity m) none).bind fun e => ?_
  refine (hooked e).bind fun result => ?_
  split
  · exact (keeps_setMessageEntity m _).bind fun _ => keeps_pure _
  · exact keeps_pure _

section Putting

variable [TellingFrame R]

theorem keeps_recordMessage (t : Target) (m : Ref Message) (direction : String)
    {hook : Option (Ref Entity) → Act RecordResult} (hooked : ∀ e, Keeps R (hook e)) :
    Keeps R (recordMessage t m direction hook) := by
  rw [recordMessage_eq]
  exact ((keeps_attributesOf m hooked).bind fun _ => keeps_putAttributes t _).attempt
    fun f => keeps_say _

theorem keeps_onStart (s : CaptureSettings) (t : Target) (m : Option (Ref Message)) :
    Keeps R (onStart s t m) := by
  cases m with
  | none => exact keeps_pure _
  | some m =>
    unfold onStart
    dsimp only
    split
    · exact keeps_recordMessage t m "request" fun e => keeps_recordEntity _ _ _ e
    · exact keeps_pure _

theorem keeps_onEnd (s : CaptureSettings) (t : Target) (m : Option (Ref Message)) :
    Keeps R (onEnd s t m) := by
  cases m with
  | none => exact keeps_pure _
  | some m =>
    unfold onEnd
    dsimp only
    split
    · exact keeps_recordMessage t m "response" fun e => keeps_recordEntity _ _ _ e
    · exact keeps_pure _

end Putting

end Act
end HttpTap
