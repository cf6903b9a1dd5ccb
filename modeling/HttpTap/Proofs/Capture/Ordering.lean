import HttpTap.Proofs.Capture.Calm
import HttpTap.Proofs.Capture.Swapping
import HttpTap.Proofs.Span.Reporting

/-!
# The order of handling a response

A response is handled in an order that no failure may upset: its body is read, the span is told
what was read, then the status, and the span ends; only then does the handler run.  The guards
around the first steps are four, and each of them contains what goes wrong behind it.

The reading is what comes first, and nothing but reading goes on there.  `World.Quiet` is the frame
that says so: bodies were read, messages may have changed their entities, and the spans and the
statuses are as they were.  The rest is calls on the span, which `handleResponse_ordered` lists.
-/

namespace HttpTap

/-- Is a body read or opened? -/
def Event.IsReading : Event → Prop
  | .stream _ | .opened _ _ => True
  | _ => False

namespace World

open Act

/-- What was noted meanwhile is that bodies were read. -/
def ReadOn (w w' : World) : Prop :=
  ∃ readings, (∀ e ∈ readings, Event.IsReading e) ∧ w'.trace.reverse = w.trace.reverse ++ readings

/-- Bodies were read and messages have changed their entities, and nothing else was done. -/
structure Quiet (w w' : World) : Prop where
  spans : w'.spans = w.spans
  status : ∀ m, w'.statusResult (w'.messages.get m) = w.statusResult (w.messages.get m)
  readOn : w.ReadOn w'

variable {w w' w'' : World}

/-! ## Reading is noted as reading -/

theorem ReadOn.of_eq (same : w'.trace = w.trace) : w.ReadOn w' :=
  ⟨[], fun _ mem => absurd mem List.not_mem_nil, by rw [same, List.append_nil]⟩

theorem ReadOn.trans (h : w.ReadOn w') (h' : w'.ReadOn w'') : w.ReadOn w'' := by
  obtain ⟨before, reads, trace⟩ := h
  obtain ⟨after, reads', trace'⟩ := h'
  refine ⟨before ++ after, fun e mem => ?_, by rw [trace', trace, List.append_assoc]⟩
  rcases List.mem_append.1 mem with mem | mem
  · exact reads e mem
  · exact reads' e mem

theorem readOn_note {e : Event} (reads : e.IsReading) : w.ReadOn (w.note e) := by
  refine ⟨[e], fun e' mem => ?_, List.reverse_cons⟩
  rw [List.mem_singleton.1 mem]
  exact reads

theorem readOn_onItsOwn (w : World) (source : Ref Source) (s : (w.onItsOwn source).σ) :
    w.ReadOn ((w.onItsOwn source).putBack s) := by
  refine ⟨_, fun e mem => ?_, List.reverse_append⟩
  obtain ⟨c, -, rfl⟩ := List.mem_map.1 (List.mem_reverse.1 mem)
  trivial

theorem readOn_rawStream (w : World) (raw : Option (Ref Source)) (s : (w.rawStream raw).σ) :
    w.ReadOn ((w.rawStream raw).putBack s) := by
  cases raw with
  | some source => exact readOn_onItsOwn w source s
  | none => exact .of_eq rfl

/-- Whatever is done with a stream is noted as calls on streams. -/
theorem readOn_putBack (w : World) (r : Ref Stream) (s : (w.opened r).σ) :
    w.ReadOn ((w.opened r).putBack s) := by
  unfold opened at s ⊢
  generalize w.streams.get r = k at s ⊢
  cases k with
  | direct source => exact readOn_onItsOwn w source s
  | overFile source layer => exact (readOn_onItsOwn w source s.feed.source).trans (.of_eq rfl)
  | overItems items layer => exact .of_eq rfl
  | overResponse response layer =>
    exact (readOn_rawStream w _ s.feed.source).trans (.of_eq (trace_markEnded _ _ _))

/-! ## The status stays -/

theorem status_of_responses (x : Message)
    (same : ∀ p, (w'.responses.get p).status = (w.responses.get p).status) :
    w'.statusResult x = w.statusResult x := by
  cases x with
  | response p =>
    cases p with
    | none => rfl
    | some p => exact congrArg Except.ok (same p)
  | _ => rfl

theorem Consulted.status (h : w.Consulted w') (m : Ref Message) :
    w'.statusResult (w'.messages.get m) = w.statusResult (w.messages.get m) := by
  rw [h.messages]
  exact status_of_responses _ fun p => by rw [(h.responses p).same]

theorem Consulted.quiet (h : w.Consulted w') (readOn : w.ReadOn w') : w.Quiet w' :=
  ⟨h.spans, h.status, readOn⟩

instance : IsPreorder World Quiet where
  refl _ := ⟨rfl, fun _ => rfl, .of_eq rfl⟩
  trans _ _ _ h h' :=
    ⟨h'.spans.trans h.spans, fun m => (h'.status m).trans (h.status m), h.readOn.trans h'.readOn⟩

instance : SwappingFrame Quiet where
  setEntity w e x := (ReadingFrame.setEntity w e x : w.Consulted _).quiet (.of_eq rfl)
  newEntity w x := (ReadingFrame.newEntity w x : w.Consulted _).quiet (.of_eq rfl)
  newSource w s := (ReadingFrame.newSource w s : w.Consulted _).quiet (.of_eq rfl)
  newStream w s := (ReadingFrame.newStream w s : w.Consulted _).quiet (.of_eq rfl)
  opened w name index :=
    (ReadingFrame.opened w name index : w.Consulted _).quiet (readOn_note trivial)
  said w line := (ReadingFrame.said w line : w.Consulted _).quiet (.of_eq rfl)
  putBack w r s := (drawn_putBack w r s).consulted.quiet (readOn_putBack w r s)
  setHeld w m e status held := by
    refine ⟨rfl, fun m' => ?_, .of_eq rfl⟩
    by_cases same : m' = m
    · subst same
      show statusResult _ ((w.messages.set m' (.plain e status)).get m') = _
      rw [Store.get_set_same]
      rcases held with held | ⟨x, held⟩ <;> (rw [held]; rfl)
    · show statusResult _ ((w.messages.set m (.plain e status)).get m') = _
      rw [Store.get_set_other same]
      exact status_of_responses _ fun _ => rfl
  setRequest w q x := ⟨rfl, fun m => status_of_responses _ fun _ => rfl, .of_eq rfl⟩
  setContent w p content := by
    refine ⟨rfl, fun m => status_of_responses _ fun q => ?_, .of_eq rfl⟩
    by_cases same : q = p
    · subst same
      show ((w.responses.set q _).get q).status = _
      rw [Store.get_set_same]
    · show ((w.responses.set p _).get q).status = _
      rw [Store.get_set_other same]

end World

namespace Act

open World

variable {w : World} {span : Ref Span} {failing : List SpanMethod}

/-! ## Recording a response -/

theorem status_contained {x : Message} (calm : x.Calm) :
    Contained (fun _ => True) (w.statusResult x) := by
  have read (status : Option Item) (calm : CalmStatus status) :
      Contained (fun _ => True) (w.statusResult (.bare status)) := by
    cases status with
    | none => trivial
    | some item =>
      cases item with
      | ok v => trivial
      | error f =>
        have contained : f.interrupts = false := calm _ rfl
        rw [statusResult]
        split
        · trivial
        · exact contained
  cases x with
  | plain e status | readOnly e status | bare status => exact read status calm
  | broken f status => exact read status calm.2
  | request q => trivial
  | response p => cases p <;> trivial

theorem safe_tellStatus_of_calm (m : Option (Ref Message)) :
    Safe Calm (fun _ => True) (tellStatus span m) := by
  cases m with
  | none => exact safe_pure trivial
  | some m =>
    refine safe_tellStatus span (fun w calm => ?_) fun _ _ told calm => calm.told told
    rw [go_messageStatus]
    exact ⟨calm, status_contained (calm.messages m)⟩

/-- A response that was refused: its stream fails after three bytes, and its span takes every
attribute but no status. -/
def refused : World := { World.empty with
  sources := Store.empty.set ⟨0⟩ (.ofStandIn ⟨"body", .answers [.ok (.bytes [97, 98, 99]),
    .error (.scripted .system "read")], false, none, true, []⟩)
  streams := Store.empty.set ⟨0⟩ (.direct ⟨0⟩)
  entities := Store.empty.set ⟨0⟩ (.once ⟨0⟩ false (.int 3) .null .null)
  messages := Store.empty.set ⟨0⟩ (.plain (some ⟨0⟩) (some (.ok (.int 404))))
  spans := Store.empty.set ⟨0⟩ (.probe ⟨[.setStatus], []⟩) }

end Act
end HttpTap
