import HttpTap.Capture.Recorder
import HttpTap.Proofs.World.Opened

/-!
# Consulting an entity

To capture an entity is to look at its members, to open it, to read the stream and to close it.
All of that is made of a few steps, and a relation that allows these steps and can be continued is a
`World.ReadingFrame`.  Whatever the entity is and whatever it does, the whole of a capture keeps
within every such frame (`keeps_capture`).  The lemmas follow the actions of the library one by one.

`World.Consulted` is the frame that says the most about what stays as it is.  Others follow from it,
or say something about the trace besides.
-/

namespace HttpTap

namespace World

/-- A preorder that allows the steps by which entities are consulted: they are made and changed,
streams are opened and used, and something is noted or said about it. -/
class ReadingFrame (R : World → World → Prop) : Prop extends IsPreorder World R where
  setEntity : ∀ w e x, R w { w with entities := w.entities.set e x }
  newEntity : ∀ w x, R w { w with entities := (w.entities.alloc x).2 }
  newSource : ∀ w s, R w { w with sources := (w.sources.alloc s).2 }
  newStream : ∀ w s, R w { w with streams := (w.streams.alloc s).2 }
  opened : ∀ w name index, R w (w.note (.opened name index))
  said : ∀ w line, R w (w.say line)
  putBack : ∀ (w : World) r s, R w ((w.opened r).putBack s)

instance : ReadingFrame Consulted where
  setEntity _ _ _ := ⟨rfl, rfl, rfl, rfl, rfl, fun _ => .refl _, Nat.le_refl _⟩
  newEntity _ _ := ⟨rfl, rfl, rfl, rfl, rfl, fun _ => .refl _, Nat.le_succ _⟩
  newSource _ _ := ⟨rfl, rfl, rfl, rfl, rfl, fun _ => .refl _, Nat.le_refl _⟩
  newStream _ _ := ⟨rfl, rfl, rfl, rfl, rfl, fun _ => .refl _, Nat.le_refl _⟩
  opened _ _ _ := ⟨rfl, rfl, rfl, rfl, rfl, fun _ => .refl _, Nat.le_refl _⟩
  said _ _ := ⟨rfl, rfl, rfl, rfl, rfl, fun _ => .refl _, Nat.le_refl _⟩
  putBack w r s := (drawn_putBack w r s).consulted

/-- What is weaker than consulting allows consulting. -/
theorem ReadingFrame.of_consulted {R : World → World → Prop} [IsPreorder World R]
    (weaker : ∀ w w', w.Consulted w' → R w w') : ReadingFrame R where
  setEntity w e x := weaker _ _ (ReadingFrame.setEntity w e x)
  newEntity w x := weaker _ _ (ReadingFrame.newEntity w x)
  newSource w s := weaker _ _ (ReadingFrame.newSource w s)
  newStream w s := weaker _ _ (ReadingFrame.newStream w s)
  opened w name index := weaker _ _ (ReadingFrame.opened w name index)
  said w line := weaker _ _ (ReadingFrame.said w line)
  putBack w r s := weaker _ _ (ReadingFrame.putBack w r s)

end World

namespace Act

open World

variable {α : Type} {R : World → World → Prop} [ReadingFrame R]

/-! ## Steps -/

theorem keeps_setEntity (e : Ref Entity) (x : Entity) : Keeps R (setEntity e x) :=
  keeps_change fun w => ReadingFrame.setEntity w e x

theorem keeps_newEntity (x : Entity) : Keeps R (newEntity x) :=
  fun w => ReadingFrame.newEntity w x

theorem keeps_newSource (s : Source) : Keeps R (newSource s) :=
  fun w => ReadingFrame.newSource w s

theorem keeps_newStream (s : Stream) : Keeps R (newStream s) :=
  fun w => ReadingFrame.newStream w s

theorem keeps_opened (name : String) (index : Nat) : Keeps R (note (.opened name index)) :=
  keeps_change fun w => ReadingFrame.opened w name index

theorem keeps_say (line : LogRecord) : Keeps R (say line) :=
  keeps_change fun w => ReadingFrame.said w line

/-- Every use of a stream puts it back. -/
theorem keeps_onStream (r : Ref Stream) (use : {σ : Type} → Reader σ → σ → α × σ) :
    Keeps R (onStream r use) :=
  fun w => ReadingFrame.putBack w r _

theorem keeps_useStream (r : Ref Stream)
    (use : {σ : Type} → Reader σ → σ → Except Fault α × σ) : Keeps R (useStream r use) :=
  fun w => ReadingFrame.putBack w r _

/-! ## Members -/

theorem keeps_readMember (e : Ref Entity) (s : EntityScript) (member : EntityScript → Readings)
    (update : EntityScript → Readings → EntityScript) :
    Keeps R (readMember e s member update) :=
  (keeps_setEntity e _).bind fun _ => keeps_lift _

theorem keeps_contentLength (e : Ref Entity) : Keeps R (contentLength e) := by
  refine (keeps_view _).bind fun x => ?_
  cases x with
  | stored t bs type encoding => exact keeps_pure _
  | once stream consumed length type encoding => exact keeps_pure _
  | requestBody q body type encoding =>
    exact (keeps_view _).bind fun _ => (keeps_lift _).bind fun _ => keeps_pure _
  | responseBody p type encoding =>
    exact (keeps_view _).bind fun _ => (keeps_lift _).bind fun _ => keeps_pure _
  | scripted s => exact keeps_readMember e s _ _

theorem keeps_repeatable (e : Ref Entity) : Keeps R (repeatable e) := by
  refine (keeps_view _).bind fun x => ?_
  cases x with
  | stored t bs type encoding => exact keeps_pure _
  | once stream consumed length type encoding => exact keeps_pure _
  | requestBody q body type encoding => exact keeps_pure _
  | responseBody p type encoding => exact (keeps_view _).bind fun _ => keeps_pure _
  | scripted s => exact keeps_readMember e s _ _

theorem keeps_contentType (e : Ref Entity) : Keeps R (contentType e) := by
  refine (keeps_view _).bind fun x => ?_
  cases x with
  | scripted s => exact keeps_readMember e s _ _
  | _ => exact keeps_pure _

theorem keeps_contentEncoding (e : Ref Entity) : Keeps R (contentEncoding e) := by
  refine (keeps_view _).bind fun x => ?_
  cases x with
  | scripted s => exact keeps_readMember e s _ _
  | _ => exact keeps_pure _

/-! ## Opening -/

theorem keeps_openSource (s : Source) : Keeps R (openSource s) :=
  (keeps_newSource s).bind fun _ => keeps_newStream _

theorem keeps_openBody (body : Body) : Keeps R (openBody body) := by
  cases body with
  | absent => exact (keeps_lift _).bind fun _ => keeps_openSource _
  | bytes bs => exact keeps_openSource _
  | buffer bs => exact keeps_openSource _
  | text s => exact keeps_openSource _
  | file source => exact keeps_newStream _
  | iterator items => exact keeps_newStream _
  | value v => exact (keeps_lift _).bind fun _ => keeps_openSource _

theorem keeps_openResponse (p : Ref Response) : Keeps R (openResponse p) := by
  refine (keeps_view _).bind fun r => ?_
  split
  · split
    · split
      · exact keeps_openSource _
      · exact keeps_throw _
    · exact keeps_openSource _
  · split
    · exact keeps_throw _
    · exact keeps_newStream _

theorem keeps_openContent (e : Ref Entity) : Keeps R (openContent e) := by
  refine (keeps_view _).bind fun x => ?_
  cases x with
  | stored t bs type encoding => exact keeps_openSource _
  | once stream consumed length type encoding =>
    cases consumed with
    | true => exact keeps_throw _
    | false => exact (keeps_setEntity e _).bind fun _ => keeps_pure _
  | requestBody q body type encoding => exact keeps_openBody body
  | responseBody p type encoding => exact keeps_openResponse p
  | scripted s =>
    exact (keeps_opened _ _).bind fun _ => (keeps_setEntity e _).bind fun _ =>
      (keeps_lift _).bind fun _ => keeps_openSource _

/-! ## Capturing -/

theorem keeps_bufferContent (e : Ref Entity) (chunk : Int) :
    Keeps R (bufferContent e chunk) := by
  refine (keeps_openContent e).observe.bind fun opened => ?_
  cases opened with
  | error f => exact keeps_pure _
  | ok r =>
    refine (keeps_onStream r _).bind fun drained => ?_
    refine (keeps_useStream r fun reader => reader.close).observe.bind fun closed => ?_
    cases closed with
    | error f => exact keeps_pure _
    | ok u => exact keeps_pure _

theorem keeps_replaceEntity (e : Ref Entity) (data : Bytes) :
    Keeps R (replaceEntity e data) :=
  (keeps_contentType e).bind fun _ => (keeps_contentEncoding e).bind fun _ =>
    (keeps_newEntity _).bind fun _ => (keeps_say _).bind fun _ => keeps_pure _

theorem keeps_makeRepeatable (e : Ref Entity) (chunk : Int) :
    Keeps R (makeRepeatable e chunk) := by
  refine (keeps_repeatable e).bind fun v => ?_
  split
  · exact keeps_pure _
  · refine (keeps_bufferContent e chunk).bind fun ⟨data, fault⟩ => ?_
    cases fault with
    | none => exact keeps_replaceEntity e data
    | some f =>
      dsimp only
      split
      · exact keeps_throw _
      · exact (keeps_say _).bind fun _ => keeps_pure _

theorem keeps_prepareEntity (e : Ref Entity) (chunk : Int) :
    Keeps R (prepareEntity e chunk) := by
  refine (keeps_contentLength e).bind fun declared => ?_
  split
  · exact keeps_pure _
  · refine (keeps_repeatable e).bind fun v => ?_
    split
    · exact keeps_pure _
    · exact (keeps_makeRepeatable e chunk).bind fun _ => keeps_pure _

theorem keeps_closing {opening : Act (Ref Stream)} {use : Ref Stream → Act α}
    (opens : Keeps R opening) (uses : ∀ r, Keeps R (use r)) :
    Keeps R (closing opening use) :=
  opens.bind fun r => (uses r).ensuring (keeps_useStream r fun reader => reader.close)

theorem keeps_readBody (limit : Int) (p : Prepared) : Keeps R (readBody limit p) := by
  refine Keeps.attempt ?_ fun f => (keeps_say _).bind fun _ => keeps_pure _
  exact (keeps_closing (keeps_openContent _) fun r => keeps_useStream r _).bind fun _ =>
    keeps_lift _

/-- A capture consults the entity and does nothing else. -/
theorem keeps_capture (limit chunk : Int) (e : Option (Ref Entity)) :
    Keeps R (capture limit chunk e) := by
  cases e with
  | none => exact keeps_pure _
  | some e =>
    refine Keeps.bind ?_ fun prepared => ?_
    · exact (keeps_prepareEntity e chunk).attempt fun f => (keeps_say _).bind fun _ => keeps_pure _
    · cases prepared with
      | none => exact keeps_pure _
      | some p => exact (keeps_readBody limit p).bind fun _ => keeps_pure _

/-! ## Messages -/

theorem keeps_orNothing {R : World → World → Prop} [IsPreorder World R] {a : Act α}
    (ha : Keeps R a) (nothing : α) : Keeps R (orNothing a nothing) := by
  refine ha.observe.bind fun r => ?_
  split
  · exact keeps_pure _
  · split
    · exact keeps_pure _
    · exact keeps_throw _

/-- Reading the status of a message does nothing at all. -/
theorem keeps_messageStatus {R : World → World → Prop} [IsPreorder World R] (m : Ref Message) :
    Keeps R (messageStatus m) := by
  have read (item : Item) : Keeps R (orNothing (lift item) .null) :=
    keeps_orNothing (keeps_lift item) _
  refine (keeps_view _).bind fun x => ?_
  cases x with
  | plain e status | readOnly e status | broken f status | bare status =>
    cases status with
    | none => exact keeps_pure _
    | some item => exact read item
  | request q => exact keeps_pure _
  | response p =>
    cases p with
    | none => exact keeps_pure _
    | some p => exact (keeps_view _).bind fun _ => keeps_pure _

theorem keeps_requestEntity (q : Ref Request) : Keeps R (requestEntity q) := by
  refine (keeps_view _).bind fun request => ?_
  split
  · exact keeps_pure _
  · split
    · exact keeps_throw _
    · exact (keeps_newEntity _).bind fun _ => keeps_pure _

theorem keeps_responseEntity (p : Ref Response) : Keeps R (responseEntity p) := by
  refine (keeps_view _).bind fun response => ?_
  split
  · exact keeps_throw _
  · exact (keeps_newEntity _).bind fun _ => keeps_pure _

/-- The entity of a message may be made anew, and nothing else is done. -/
theorem keeps_messageEntity (m : Ref Message) : Keeps R (messageEntity m) := by
  refine (keeps_view _).bind fun x => ?_
  split
  · exact keeps_pure _
  · exact keeps_pure _
  · exact keeps_throw _
  · exact keeps_throw _
  · exact keeps_throw _
  · exact keeps_requestEntity _
  · exact keeps_throw _
  · exact keeps_responseEntity _

theorem keeps_entityBytes (e : Ref Entity) : Keeps R (entityBytes e) := by
  refine (keeps_view _).bind fun x => ?_
  split
  · exact keeps_pure _
  · refine (keeps_openContent e).bind fun r => Keeps.bind ?_ fun _ => ?_
    · refine (keeps_view _).bind fun closed => ?_
      split
      · exact keeps_throw _
      · exact keeps_pure _
    · exact (keeps_useStream r fun reader => reader.read _).ensuring
        (keeps_useStream r fun reader => reader.close)

end Act
end HttpTap
