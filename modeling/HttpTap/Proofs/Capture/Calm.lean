import HttpTap.Proofs.Entity.Calm
import HttpTap.Proofs.Span.Telling

/-!
# Capturing in a calm world

In a calm world nothing that the library does on its own account fails.  Capturing an entity comes
to a result (`succeeds_capture`), and so do the two hooks of a recorder that are given a message
(`succeeds_onStart`, `succeeds_onEnd`) and the buffering of a response
(`succeeds_makeResponseRepeatable`), whatever the entity, the message and the target are.

What stands outside every guard is the first to be looked at: the guards cover different parts of
the work, and between them there must be nothing that can fail.
-/

namespace HttpTap

/-! ## Comparing lengths -/

namespace Value

theorem compareInt_contained (v : Value) (k : Int) :
    Contained (fun _ => True) (v.compareInt k) := by
  unfold compareInt
  split
  · trivial
  · split
    · trivial
    · exact rfl

theorem exceeds_contained (v : Value) (k : Int) : Contained (fun _ => True) (v.exceeds k) :=
  (v.compareInt_contained k).bind fun _ _ => trivial

theorem reaches_contained (v : Value) (k : Int) : Contained (fun _ => True) (v.reaches k) :=
  (v.compareInt_contained k).bind fun _ _ => trivial

end Value

theorem bodySize_contained (declared : Value) (observed : Option Nat) (kept : Nat) :
    Contained (fun _ => True) (bodySize declared observed kept) := by
  refine (declared.reaches_contained 0).bind fun known _ => ?_
  split <;> trivial

/-- A length of any type makes a body or a fault that is contained. -/
theorem capturedBody_contained (limit : Int) (declared : Value) (observed : Option Nat)
    (read : BoundedRead) :
    Contained (fun _ => True) (capturedBody limit declared observed read) := by
  unfold capturedBody
  split
  · trivial
  · have sized : ∀ cut, Contained (fun _ => True) (do
        let size ← bodySize declared observed read.data.length
        return some (CapturedBody.mk (capturedText read.data cut) size cut)) := fun cut =>
      (bodySize_contained declared observed read.data.length).bind fun size _ => trivial
    split
    · exact sized true
    · exact (declared.exceeds_contained limit).bind fun cut _ => sized cut

/-- Telling spans and sinks something leaves a calm world calm. -/
theorem World.Calm.told {w w' : World} (h : w.Calm) (told : w.Told w') : w'.Calm :=
  h.of_same told.sources told.iterators told.entities told.messages

namespace Act

open World

/-! ## Buffering -/

/-- Buffering says what was read; the fault that ended it, if one did, is contained. -/
theorem succeeds_bufferContent (e : Ref Entity) (chunk : Int) :
    Succeeds Calm (fun d => ∀ f, d.2 = some f → f.interrupts = false) (bufferContent e chunk) := by
  refine (safe_openContent e).observe_succeeds.bind fun opened contained => ?_
  cases opened with
  | error f =>
    refine succeeds_pure ?_
    rintro f' ⟨⟩
    exact contained
  | ok r =>
    refine (succeeds_drainStream r chunk).bind fun d faults => ?_
    refine (safe_closeStream r).observe_succeeds.bind fun closed contained => ?_
    cases closed with
    | error f =>
      refine succeeds_pure ?_
      rintro f' ⟨⟩
      exact contained
    | ok u => exact succeeds_pure faults

theorem safe_replaceEntity (e : Ref Entity) (data : Bytes) :
    Safe Calm (fun result => result.replaced = true) (replaceEntity e data) := by
  refine (safe_contentType e).bind fun type _ => (safe_contentEncoding e).bind fun encoding _ => ?_
  refine (safe_newEntity (x := .ofBytes ..) trivial).bind fun replacement _ => ?_
  exact (safe_say _).bind fun _ _ => safe_pure rfl

/-- An entity that is not replaced is the one that was handed in. -/
theorem safe_makeRepeatable (e : Ref Entity) (chunk : Int) :
    Safe Calm (fun result => result.replaced = false → result.entity = e)
      (makeRepeatable e chunk) := by
  refine (safe_repeatable e).bind fun flag _ => ?_
  split
  · exact safe_pure fun _ => rfl
  · refine (succeeds_bufferContent e chunk).safe.bind fun d faults => ?_
    obtain ⟨data, fault⟩ := d
    cases fault with
    | none =>
      refine (safe_replaceEntity e data).mono fun result replaced kept => ?_
      exact absurd (replaced.symm.trans kept) Bool.noConfusion
    | some f =>
      dsimp only
      rw [faults f rfl, if_neg Bool.false_ne_true]
      exact (safe_say _).bind fun _ _ => safe_pure fun _ => rfl

/-! ## Capturing -/

theorem safe_prepareEntity (e : Ref Entity) (chunk : Int) :
    Safe Calm (fun prepared => ∀ p, prepared = some p → p.replaced = false → p.entity = e)
      (prepareEntity e chunk) := by
  refine (safe_contentLength e).bind fun declared _ => ?_
  split
  · refine safe_pure ?_
    rintro p ⟨⟩
  · refine (safe_repeatable e).bind fun flag _ => ?_
    split
    · refine safe_pure ?_
      rintro p ⟨⟩ _
      rfl
    · refine (safe_makeRepeatable e chunk).bind fun result kept => safe_pure ?_
      rintro p ⟨⟩
      exact kept

theorem succeeds_readBody (limit : Int) (p : Prepared) :
    Succeeds Calm (fun _ => True) (readBody limit p) := by
  refine Safe.succeeds (Q := fun _ => True) ?_ fun f _ => (succeeds_say _).bind fun _ _ =>
    succeeds_pure trivial
  have read : Safe Calm (fun _ => True)
      (closing (openContent p.entity) fun r => readBounded r limit readChunkSize) :=
    (safe_openContent p.entity).bind fun r _ =>
      (safe_readBounded r limit readChunkSize).ensuring (safe_closeStream r)
  exact read.bind fun _ _ => safe_lift (capturedBody_contained _ _ _ _)

/-- Capturing comes to a result, and what is not replaced is handed back. -/
theorem succeeds_capture (limit chunk : Int) (e : Option (Ref Entity)) :
    Succeeds Calm (fun result => result.replaced = false → result.entity = e)
      (capture limit chunk e) := by
  cases e with
  | none => exact succeeds_pure fun _ => rfl
  | some e =>
    have prepared : Succeeds Calm
        (fun prepared => ∀ p, prepared = some p → p.replaced = false → p.entity = e)
        (attempt (prepareEntity e chunk) fun f => do
          say (.contained captureChannel "Failed to prepare entity for capture" f)
          return none) := by
      refine (safe_prepareEntity e chunk).succeeds fun f _ => ?_
      refine (succeeds_say _).bind fun _ _ => succeeds_pure ?_
      rintro p ⟨⟩
    refine prepared.bind fun p kept => ?_
    cases p with
    | none => exact succeeds_pure fun _ => rfl
    | some p =>
      refine (succeeds_readBody limit p).bind fun _ _ => succeeds_pure fun same => ?_
      exact congrArg some (kept p rfl same)

/-! ## Recording -/

theorem succeeds_recordEntity (enabled : Bool) (limit : Int) (keys : BodyKeys)
    (e : Option (Ref Entity)) :
    Succeeds Calm (fun result => result.replaced = false → result.entity = e)
      (recordEntity enabled limit keys e) := by
  unfold recordEntity
  split
  · exact (succeeds_capture limit bufferChunkSize e).bind fun _ kept => succeeds_pure kept
  · exact succeeds_pure fun _ => rfl

theorem succeeds_recordMessage (t : Target) (m : Ref Message) (direction : String)
    {hook : Option (Ref Entity) → Act RecordResult} {Q : Option (Ref Entity) → RecordResult → Prop}
    (hooked : ∀ e, Succeeds Calm (Q e) (hook e)) :
    Succeeds Calm (fun _ => True) (recordMessage t m direction hook) := by
  refine Safe.succeeds (Q := fun _ => True) ?_ fun f _ => succeeds_say _
  have entity : Safe Calm (fun _ => True) (orNothing (messageEntity m) none) :=
    safe_orNothing (safe_messageEntity m) trivial
  refine entity.bind fun e _ => (hooked e).safe.bind fun result _ => ?_
  have recorded : Safe Calm (fun _ => True) (putAttributes t result.attributes) :=
    (safe_putAttributes t result.attributes).of_keeps (keeps_putAttributes t result.attributes)
      fun _ _ told h => h.told told
  split
  · exact (safe_setMessageEntity m _).bind fun _ _ => recorded
  · exact recorded

/-- Recording the body of a request comes to an end without a fault. -/
theorem succeeds_onStart (s : CaptureSettings) (t : Target) (m : Option (Ref Message)) :
    Succeeds Calm (fun _ => True) (onStart s t m) := by
  cases m with
  | none => exact succeeds_pure trivial
  | some m =>
    unfold onStart
    dsimp only
    split
    · exact succeeds_recordMessage t m "request" fun e => succeeds_recordEntity _ _ _ e
    · exact succeeds_pure trivial

/-- Recording the content of a response comes to an end without a fault. -/
theorem succeeds_onEnd (s : CaptureSettings) (t : Target) (m : Option (Ref Message)) :
    Succeeds Calm (fun _ => True) (onEnd s t m) := by
  cases m with
  | none => exact succeeds_pure trivial
  | some m =>
    unfold onEnd
    dsimp only
    split
    · exact succeeds_recordMessage t m "response" fun e => succeeds_recordEntity _ _ _ e
    · exact succeeds_pure trivial

/-- Buffering a response comes to an end without a fault. -/
theorem succeeds_makeResponseRepeatable (s : CaptureSettings) (m : Option (Ref Message)) :
    Succeeds Calm (fun _ => True) (makeResponseRepeatable s m) := by
  cases m with
  | none => exact succeeds_pure trivial
  | some m =>
    unfold makeResponseRepeatable
    dsimp only
    split
    · refine Safe.succeeds (Q := fun _ => True) ?_ fun f _ => succeeds_say _
      refine (safe_messageEntity m).bind fun e _ => ?_
      cases e with
      | none => exact safe_pure trivial
      | some e =>
        refine (safe_repeatable e).bind fun flag _ => ?_
        split
        · exact safe_pure trivial
        · refine (safe_makeRepeatable e bufferChunkSize).bind fun result _ => ?_
          split
          · exact safe_setMessageEntity m _
          · exact safe_pure trivial
    · exact succeeds_pure trivial

end Act
end HttpTap
