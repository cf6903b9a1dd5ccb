import HttpTap.Proofs.Capture.Calm
import HttpTap.Proofs.Capture.Reference

/-!
# After the last byte

A read-once entity that was read to its end is empty, and the bytes are in the buffer and nowhere
else.  What is still to be done then is to close the stream and to ask the entity for its type and
its encoding, and each of these may fail.

`World.Pours w most e c` says no more of an entity than that it opens once and that its stream
delivers `c`.  Such an entity is replaced by a copy of `c` exactly if it can be read through without
a guard, from its flag to its encoding (`keeps_drained_iff`).  If it cannot, the buffer is thrown
away.  A stream that fails to close makes the adapter hand back the entity that it has emptied, and
so does a description that fails, once the fault has come to the guard of the capture.
-/

namespace HttpTap

/-- The entity opens once, and its stream delivers `c` to reads of at most `most` bytes.  Nothing is
said about what comes after the last byte. -/
structure World.Pours (w : World) (most : Int) (e : Ref Entity) (c : Bytes) : Prop where
  once : ∀ w', World.Looks e w w' →
    ∃ v, (Act.go (Act.repeatable e) w').1 = .ok v ∧ v.truthy = false
  opens : ∀ w', World.Looks e w w' → ∃ r w'', Act.go (Act.openContent e) w' = (.ok r, w'') ∧
    (w''.opened r).reader.Delivers most (w''.opened r).state c

theorem World.Pours.later {w w' : World} {most : Int} {e : Ref Entity} {c : Bytes}
    (h : w.Pours most e c) (looks : World.Looks e w w') : w'.Pours most e c where
  once w'' later := h.once w'' (looks.trans later)
  opens w'' later := h.opens w'' (looks.trans later)

/-- The world after the length and the flag of an entity were read. -/
def World.asked (w : World) (e : Ref Entity) : World :=
  (Act.go (Act.repeatable e) (Act.go (Act.contentLength e) w).2).2

namespace Act

open World

variable {w w' : World} {e : Ref Entity} {r : Ref Stream} {c : Bytes} {limit chunk : Int}

/-- Ask an entity for its type and its encoding. -/
def describe (e : Ref Entity) : Act (Value × Value) := do
  let type ← contentType e
  let encoding ← contentEncoding e
  return (type, encoding)

/-- Read an entity to its end, close it and ask for its descriptions, with no guard around it. -/
def readThrough (e : Ref Entity) (chunk : Int) : Act (Value × Value) := do
  let _ ← repeatable e
  let r ← openContent e
  let _ ← drainStream r chunk
  closeStream r
  describe e

theorem safe_describe (e : Ref Entity) : Safe Calm (fun _ => True) (describe e) :=
  (safe_contentType e).bind fun _ _ => (safe_contentEncoding e).bind fun _ _ => safe_pure trivial

theorem keeps_readThrough (e : Ref Entity) (chunk : Int) :
    Keeps Consulted (readThrough e chunk) := by
  refine (keeps_repeatable e).bind fun _ => (keeps_openContent e).bind fun r => ?_
  refine (keeps_onStream r _).bind fun _ => ?_
  refine (keeps_useStream r fun reader => reader.close).bind fun _ => ?_
  exact (keeps_contentType e).bind fun _ => (keeps_contentEncoding e).bind fun _ => keeps_pure _

/-! ## Buffering -/

theorem go_drainStream_of_delivers (h : (w.opened r).reader.Delivers chunk (w.opened r).state c)
    (pos : 0 < chunk) : ∃ w', go (drainStream r chunk) w = (.ok (c, none), w') := by
  obtain ⟨s, drained, -⟩ := Reader.drain_of_delivers h ⟨pos, Int.le_refl _⟩
  exact ⟨_, by rw [go_drainStream, drained]⟩

/-- To replace an entity is to ask for its descriptions and to make a copy. -/
theorem replaceEntity_eq (e : Ref Entity) (data : Bytes) :
    replaceEntity e data = describe e >>= fun d => do
      let replacement ← newEntity (.ofBytes data d.1 d.2)
      say (.detail repeatableChannel
        ("Buffered non-repeatable entity (" ++ toString data.length ++ " bytes)"))
      return ⟨replacement, data.length, true⟩ := by
  simp only [replaceEntity, describe, bind_assoc, pure_bind]

/-- What becomes of an entity that is read to its end: a copy if the rest succeeds, else the emptied
entity or a fault. -/
theorem go_makeRepeatable_of_pours (calm : w.Calm) (h : w.Pours chunk e c) (pos : 0 < chunk) :
    (∃ d e' w', (go (readThrough e chunk) w).1 = .ok d ∧
      go (makeRepeatable e chunk) w = (.ok ⟨e', c.length, true⟩, w') ∧ w.NewCopy w' e' c) ∨
    ∃ f w', (go (readThrough e chunk) w).1 = .error f ∧ f.interrupts = false ∧
      (go (makeRepeatable e chunk) w = (.ok ⟨e, 0, false⟩, w') ∨
        go (makeRepeatable e chunk) w = (.error f, w')) := by
  obtain ⟨flag, first, falsy⟩ := h.once w .refl
  obtain ⟨w₁, flagged, looked⟩ : ∃ w₁, go (repeatable e) w = (.ok flag, w₁) ∧ Look e w w₁ :=
    ⟨_, Prod.ext first rfl, .repeatable w⟩
  obtain ⟨r, w₂, opened, delivers⟩ := h.opens w₁ (.single looked)
  obtain ⟨w₃, drained⟩ := go_drainStream_of_delivers delivers pos
  have through : go (readThrough e chunk) w = go (closeStream r >>= fun _ => describe e) w₃ := by
    rw [readThrough, go_bind_of_ok flagged, go_bind_of_ok opened, go_bind_of_ok drained]
  have calm₁ := (Safe.of_go (safe_repeatable e) calm flagged).1
  have calm₂ := (Safe.of_go (safe_openContent e) calm₁ opened).1
  have calm₃ := (Safe.of_go (succeeds_drainStream r chunk).safe calm₂ drained).1
  cases closed : go (closeStream r) w₃ with
  | mk outcome w₄ =>
    obtain ⟨calm₄, contained⟩ := Safe.of_go (safe_closeStream r) calm₃ closed
    cases outcome with
    | error f =>
      -- the buffer is full, and the fault of closing throws it away
      have buffered : go (bufferContent e chunk) w₁ = (.ok (c, some f), w₄) := by
        rw [bufferContent, go_bind, go_observe, opened]
        dsimp only
        rw [go_bind_of_ok drained, go_bind, go_observe, closed]
        rfl
      refine .inr ⟨f, _, ?_, contained, .inl
        (go_makeRepeatable_of_fault flagged falsy buffered contained)⟩
      rw [through, go_bind_of_error closed]
    | ok u =>
      have buffered : go (bufferContent e chunk) w₁ = (.ok (c, none), w₄) := by
        rw [bufferContent, go_bind, go_observe, opened]
        dsimp only
        rw [go_bind_of_ok drained, go_bind, go_observe, closed]
        rfl
      rw [go_bind_of_ok closed] at through
      have replacing := go_makeRepeatable_of_data flagged falsy buffered
      rw [replaceEntity_eq] at replacing
      cases described : go (describe e) w₄ with
      | mk outcome w₅ =>
        rw [described] at through
        have consulted : w.Consulted w₅ := (keeps_readThrough e chunk).of_go through
        cases outcome with
        | error f =>
          have harmless := (Safe.of_go (safe_describe e) calm₄ described).2
          refine .inr ⟨f, w₅, by rw [through], harmless, .inr ?_⟩
          rw [replacing, go_bind_of_error described]
        | ok d =>
          rw [go_bind_of_ok described] at replacing
          obtain ⟨w', made, stored⟩ : ∃ w',
              go (makeRepeatable e chunk) w = (.ok ⟨w₅.entities.next, c.length, true⟩, w') ∧
                w'.entities.get w₅.entities.next = .stored false c d.1 d.2 :=
            ⟨_, replacing, Store.get_alloc_same _ _⟩
          have new : ¬ w.entities.Has w₅.entities.next := fun has =>
            Store.not_has_next _ (Nat.lt_of_lt_of_le has consulted.entities_le)
          exact .inl ⟨d, w₅.entities.next, w', by rw [through], made, new, d.1, d.2, stored⟩

/-! ## Capturing -/

/-- A capture comes to a copy or to the emptied entity, as making the entity repeatable does. -/
theorem go_capture_of_pours {declared : Value} (limit : Int) (calm : w.Calm) (h : w.Pours chunk e c)
    (pos : 0 < chunk)
    (length : (go (contentLength e) w).1 = .ok declared) (filled : declared.equalsInt 0 = false) :
    (∃ d body e' w', (go (readThrough e chunk) (w.asked e)).1 = .ok d ∧
      go (capture limit chunk (some e)) w = (.ok ⟨body, some e', true⟩, w') ∧
        w.NewCopy w' e' c) ∨
    ∃ f body w', (go (readThrough e chunk) (w.asked e)).1 = .error f ∧
      go (capture limit chunk (some e)) w = (.ok ⟨body, some e, false⟩, w') := by
  set w₁ := (go (contentLength e) w).2
  have declares : go (contentLength e) w = (.ok declared, w₁) := Prod.ext length rfl
  have looked : Looks e w w₁ := .single (.length w)
  obtain ⟨flag, first, falsy⟩ := h.once w₁ looked
  have flagged : go (repeatable e) w₁ = (.ok flag, w.asked e) := Prod.ext first rfl
  have asked : Looks e w (w.asked e) := looked.tail (.repeatable w₁)
  have calm₁ := (Safe.of_go (safe_contentLength e) calm declares).1
  have calm₂ := (Safe.of_go (safe_repeatable e) calm₁ flagged).1
  have preparing := go_prepareEntity_of_falsy chunk declares filled flagged falsy
  have calm' := safe_makeRepeatable e chunk (w.asked e) calm₂
  rcases go_makeRepeatable_of_pours calm₂ (h.later asked) pos with
    ⟨d, e', w₃, through, made, copy⟩ | ⟨f, w₃, through, contained, kept | failed⟩
  · rw [made] at calm'
    rw [go_bind_of_ok made] at preparing
    obtain ⟨body, w', read, -, -⟩ :=
      (succeeds_readBody limit ⟨e', declared, some c.length, true⟩).go calm'.1
    have uses : Uses e' w₃ w' :=
      (uses_readBody limit ⟨e', declared, some c.length, true⟩).of_go read
    refine .inl ⟨d, body, e', w', through, go_capture_of_prepared preparing read, ?_⟩
    exact (copy.earlier asked.uses.consulted.entities_le).later uses
  · rw [kept] at calm'
    rw [go_bind_of_ok kept] at preparing
    obtain ⟨body, w', read, -, -⟩ :=
      (succeeds_readBody limit ⟨e, declared, none, false⟩).go calm'.1
    exact .inr ⟨f, body, w', through, go_capture_of_prepared preparing read⟩
  · rw [go_bind_of_error failed] at preparing
    exact .inr ⟨f, none, _, through, go_capture_of_error preparing contained⟩

/-! ## The whole -/

/-- The adapter replaces an entity exactly if it can be read through. -/
theorem makeRepeatable_keeps_iff (calm : w.Calm) (h : w.Pours chunk e c) (pos : 0 < chunk) :
    ((∃ e' w', go (makeRepeatable e chunk) w = (.ok ⟨e', c.length, true⟩, w') ∧
        w'.Replays e' c) ↔ ∃ d, (go (readThrough e chunk) w).1 = .ok d) ∧
    ∀ f, (go (readThrough e chunk) w).1 = .error f →
      ∃ w', go (makeRepeatable e chunk) w = (.ok ⟨e, 0, false⟩, w') ∨
        go (makeRepeatable e chunk) w = (.error f, w') := by
  rcases go_makeRepeatable_of_pours calm h pos with
    ⟨d, e', w', through, made, copy⟩ | ⟨f, w', through, -, outcome⟩
  · refine ⟨⟨fun _ => ⟨d, through⟩, fun _ => ⟨e', w', made, copy.replays⟩⟩, fun f failed => ?_⟩
    exact absurd (through.symm.trans failed) (by simp)
  · refine ⟨⟨?_, ?_⟩, fun f' failed => ?_⟩
    · rintro ⟨e', w'', made, -⟩
      rcases outcome with kept | failed
      · exact absurd (kept.symm.trans made) (by simp)
      · exact absurd (failed.symm.trans made) (by simp)
    · rintro ⟨d, succeeded⟩
      exact absurd (through.symm.trans succeeded) (by simp)
    · obtain rfl := Except.error.inj (through.symm.trans failed)
      exact ⟨w', outcome⟩

/-- A capture replaces an entity that declares some length exactly if it can be read through. -/
theorem capture_keeps_iff {declared : Value} (limit : Int) (calm : w.Calm) (h : w.Pours chunk e c)
    (pos : 0 < chunk)
    (length : (go (contentLength e) w).1 = .ok declared) (filled : declared.equalsInt 0 = false) :
    ((∃ body e' w', go (capture limit chunk (some e)) w = (.ok ⟨body, some e', true⟩, w') ∧
        w'.Replays e' c) ↔ ∃ d, (go (readThrough e chunk) (w.asked e)).1 = .ok d) ∧
    ∀ f, (go (readThrough e chunk) (w.asked e)).1 = .error f →
      ∃ body w', go (capture limit chunk (some e)) w = (.ok ⟨body, some e, false⟩, w') := by
  rcases go_capture_of_pours limit calm h pos length filled with
    ⟨d, body, e', w', through, captured, copy⟩ | ⟨f, body, w', through, captured⟩
  · refine ⟨⟨fun _ => ⟨d, through⟩, fun _ => ⟨body, e', w', captured, copy.replays⟩⟩,
      fun f failed => ?_⟩
    exact absurd (through.symm.trans failed) (by simp)
  · refine ⟨⟨?_, ?_⟩, fun _ _ => ⟨body, w', captured⟩⟩
    · rintro ⟨body', e', w'', made, -⟩
      exact absurd (captured.symm.trans made) (by simp)
    · rintro ⟨d, succeeded⟩
      exact absurd (through.symm.trans succeeded) (by simp)

/-- An entity that was read to its end is replaced by a copy of what it delivered exactly if it can
be read through; if it cannot, the adapter gives the emptied entity or a fault, and a capture gives
the emptied entity. -/
theorem keeps_drained_iff (calm : w.Calm) (h : w.Pours chunk e c) (pos : 0 < chunk) :
    (((∃ e' w', go (makeRepeatable e chunk) w = (.ok ⟨e', c.length, true⟩, w') ∧
        w'.Replays e' c) ↔ ∃ d, (go (readThrough e chunk) w).1 = .ok d) ∧
      ∀ f, (go (readThrough e chunk) w).1 = .error f →
        ∃ w', go (makeRepeatable e chunk) w = (.ok ⟨e, 0, false⟩, w') ∨
          go (makeRepeatable e chunk) w = (.error f, w')) ∧
    ∀ limit declared, (go (contentLength e) w).1 = .ok declared → declared.equalsInt 0 = false →
      ((∃ body e' w', go (capture limit chunk (some e)) w = (.ok ⟨body, some e', true⟩, w') ∧
        w'.Replays e' c) ↔ ∃ d, (go (readThrough e chunk) (w.asked e)).1 = .ok d) ∧
      ∀ f, (go (readThrough e chunk) (w.asked e)).1 = .error f →
        ∃ body w', go (capture limit chunk (some e)) w = (.ok ⟨body, some e, false⟩, w') :=
  ⟨makeRepeatable_keeps_iff calm h pos, fun limit _ length filled =>
    capture_keeps_iff limit calm h pos length filled⟩

/-! ## A stream that fails to close -/

/-- A read-once entity pours what its stream delivers. -/
theorem pours_once {length type encoding : Value}
    (hx : w.entities.get e = .once r false length type encoding)
    (h : (w.opened r).reader.Delivers chunk (w.opened r).state c) : w.Pours chunk e c where
  once w' looks := by
    rw [eq_of_looks hx rfl looks, go_repeatable hx rfl]
    exact ⟨_, rfl, rfl⟩
  opens w' looks := by
    rw [eq_of_looks hx rfl looks, go_openContent_once hx]
    exact ⟨r, _, rfl, of_opened_same (P := fun reader s => reader.Delivers chunk s c) h rfl rfl rfl
      fun _ => rfl⟩

/-- A stand-in that has the bytes `abc`, and may fail to close. -/
def threeBytes (closeFault : Option Fault) : StandIn :=
  ⟨"s", .data [97, 98, 99] none none, false, closeFault, true, []⟩

/-- A read-once entity over such a stand-in. -/
def pouring (closeFault : Option Fault) : World := { World.empty with
  sources := Store.empty.set ⟨0⟩ (.ofStandIn (threeBytes closeFault))
  streams := Store.empty.set ⟨0⟩ (.direct ⟨0⟩)
  entities := Store.empty.set ⟨0⟩ (.once ⟨0⟩ false (.int (-1)) .null .null) }

theorem calm_pouring {closeFault : Option Fault}
    (contained : ∀ f, closeFault = some f → f.interrupts = false) : (pouring closeFault).Calm := by
  have source : (Source.ofStandIn (threeBytes closeFault)).Calm :=
    Source.calm_ofStandIn ⟨fun f none => absurd none (by simp), contained⟩
  have filled := (calm_empty.setSource ⟨0⟩ source).setEntity ⟨0⟩
    (x := .once ⟨0⟩ false (.int (-1)) .null .null) trivial
  exact filled.of_same rfl rfl rfl rfl

theorem pours_pouring (closeFault : Option Fault) :
    (pouring closeFault).Pours 8192 ⟨0⟩ [97, 98, 99] := by
  have hx : (pouring closeFault).entities.get ⟨0⟩ = .once ⟨0⟩ false (.int (-1)) .null .null := rfl
  exact pours_once hx ((StandIn.delivers (d := threeBytes closeFault) rfl rfl (by decide) 8192).embed
    Ground.embeds_standIn)

/-- The stand-in after it was read to its end, which took two reads. -/
def threeBytesRead (closeFault : Option Fault) : StandIn :=
  ⟨"s", .data [] none none, false, closeFault, true,
    [.read "s" 8192 (.length 0), .read "s" 8192 (.length 3)]⟩

theorem drain_threeBytes (closeFault : Option Fault) :
    Ground.reader.drain 8192 (.standIn (threeBytes closeFault)) =
      ⟨[97, 98, 99], none, .standIn (threeBytesRead closeFault)⟩ := by
  have first : Ground.reader.read 8192 (.standIn (threeBytes closeFault)) =
      (.ok (.bytes [97, 98, 99]), .standIn { threeBytesRead closeFault with
        calls := [.read "s" 8192 (.length 3)] }) := rfl
  rw [Reader.drain_of_piece first (by simp), Reader.drain_of_end (v := .bytes []) rfl rfl]
  rfl

/-- After its last byte was read, everything depends on whether the stand-in can be closed. -/
theorem go_close_pouring (closeFault : Option Fault) :
    ∃ w₁ w₂ w₃, go (openContent ⟨0⟩) (pouring closeFault) = (.ok ⟨0⟩, w₁) ∧
      go (drainStream ⟨0⟩ 8192) w₁ = (.ok ([97, 98, 99], none), w₂) ∧
      go (closeStream ⟨0⟩) w₂ = (closeFault.elim (.ok ()) .error, w₃) ∧
      w₃.entities.get ⟨0⟩ = .once ⟨0⟩ true (.int (-1)) .null .null := by
  set w₁ : World := { pouring closeFault with
    entities := (pouring closeFault).entities.set ⟨0⟩ (.once ⟨0⟩ true (.int (-1)) .null .null) }
  set w₂ : World := (w₁.opened ⟨0⟩).putBack (Ground.standIn (threeBytesRead closeFault))
  have opened : go (openContent ⟨0⟩) (pouring closeFault) = (.ok ⟨0⟩, w₁) :=
    go_openContent_once rfl
  have drained : go (drainStream ⟨0⟩ 8192) w₁ = (.ok ([97, 98, 99], none), w₂) :=
    congrArg (fun d : Drained Ground => (Except.ok (d.data, d.fault), (w₁.opened ⟨0⟩).putBack d.rest))
      (drain_threeBytes closeFault)
  have closed : (go (closeStream ⟨0⟩) w₂).1 = closeFault.elim (.ok ()) .error := by
    cases closeFault <;> rfl
  exact ⟨w₁, w₂, _, opened, drained, Prod.ext closed rfl, rfl⟩

/-- Without a fault in closing, the bytes of the stand-in are kept. -/
theorem keeps_drained_iff_threeBytes :
    ∃ e' w', go (makeRepeatable ⟨0⟩ 8192) (pouring none) = (.ok ⟨e', 3, true⟩, w') ∧
      w'.Replays e' [97, 98, 99] := by
  obtain ⟨w₁, w₂, w₃, opened, drained, closed, left⟩ := go_close_pouring none
  refine (keeps_drained_iff (calm_pouring fun f none => absurd none (by simp))
    (pours_pouring none) (by decide)).1.1.2 ⟨(.null, .null), ?_⟩
  have flagged : go (repeatable ⟨0⟩) (pouring none) = (.ok (.bool false), pouring none) :=
    go_repeatable (x := .once ⟨0⟩ false (.int (-1)) .null .null) rfl rfl
  rw [readThrough, go_bind_of_ok flagged, go_bind_of_ok opened, go_bind_of_ok drained,
    go_bind_of_ok closed, describe, go_bind_of_ok (go_contentType left rfl),
    go_bind_of_ok (go_contentEncoding left rfl)]
  rfl

/-- With one, the adapter hands back the entity, which cannot be opened again. -/
theorem not_keeps_drained_closeFault :
    (pouring (some (.scripted .system "scripted"))).Calm ∧
      (pouring (some (.scripted .system "scripted"))).Pours 8192 ⟨0⟩ [97, 98, 99] ∧
      ∃ w', go (makeRepeatable ⟨0⟩ 8192) (pouring (some (.scripted .system "scripted"))) =
          (.ok ⟨⟨0⟩, 0, false⟩, w') ∧
        (go (openContent ⟨0⟩) w').1 = .error .contentConsumed := by
  obtain ⟨w₁, w₂, w₃, opened, drained, closed, left⟩ :=
    go_close_pouring (some (.scripted .system "scripted"))
  have flagged : go (repeatable ⟨0⟩) (pouring (some (.scripted .system "scripted"))) =
      (.ok (.bool false), pouring (some (.scripted .system "scripted"))) :=
    go_repeatable (x := .once ⟨0⟩ false (.int (-1)) .null .null) rfl rfl
  have buffered : go (bufferContent ⟨0⟩ 8192) (pouring (some (.scripted .system "scripted"))) =
      (.ok ([97, 98, 99], some (.scripted .system "scripted")), w₃) := by
    rw [bufferContent, go_bind, go_observe, opened]
    dsimp only
    rw [go_bind_of_ok drained, go_bind, go_observe, closed]
    rfl
  refine ⟨calm_pouring ?_, pours_pouring _, _,
    go_makeRepeatable_of_fault flagged rfl buffered rfl, ?_⟩
  · rintro f ⟨⟩
    rfl
  · exact congrArg Prod.fst (go_openContent_consumed (w := w₃.say _) left)

end Act
end HttpTap
