import HttpTap.Entity.Message
import HttpTap.Proofs.World.Calm

/-!
# Entities and messages in a calm world

In a calm world every use of an entity or of a message ends in a result or in a fault that guards
contain, and the world stays calm.  There is one lemma for each member of an entity, for opening
its content, and for reading and assigning the entity of a message.

Lengths are where most can go wrong.  A header may be no number, a content may have no length, and
an encoding may be no text; none of these faults is an interrupt.
-/

namespace HttpTap

/-! ## Lengths that fail -/

theorem Value.toInteger_contained (v : Value) : Contained (fun _ => True) v.toInteger := by
  unfold Value.toInteger
  split
  · trivial
  · trivial
  · split
    · trivial
    · exact rfl
  · split
    · trivial
    · exact rfl
  · split
    · trivial
    · exact rfl
    · exact rfl
  · exact rfl

/-- What headers declare is unknown or a length, or it cannot be read. -/
theorem declaredLength_contained (headers : Option Headers) :
    Contained (fun d => d = unknownLength ∨ 0 ≤ d) (declaredLength headers) := by
  unfold declaredLength
  split
  · exact .inl rfl
  · exact .inl rfl
  · next v _ _ =>
    have contained := v.toInteger_contained
    cases h : v.toInteger with
    | ok n =>
      show (if 0 ≤ n then n else unknownLength) = unknownLength ∨
        0 ≤ (if 0 ≤ n then n else unknownLength)
      split
      · next length => exact .inr length
      · exact .inl rfl
    | error f =>
      rw [h] at contained
      dsimp only
      split
      · exact .inl rfl
      · exact contained

theorem isPacked_contained (encoding : Value) : Contained (fun _ => True) (isPacked encoding) := by
  unfold isPacked
  split
  · split
    · trivial
    · trivial
    · exact rfl
  · trivial

theorem requireLength_contained (v : Value) : Contained (fun _ => True) (requireLength v) := by
  unfold requireLength
  split
  · trivial
  · exact rfl

theorem requestLength_contained (headers : Option Headers) (body : Body) :
    Contained (fun _ => True) (requestLength headers body) := by
  refine (declaredLength_contained headers).bind fun declared _ => ?_
  split <;> trivial

theorem responseLength_contained (p : Response) (encoding : Value) :
    Contained (fun _ => True) (responseLength p encoding) := by
  unfold responseLength
  split
  · refine (isPacked_contained encoding).bind fun packed _ => ?_
    split
    · trivial
    · exact (declaredLength_contained _).mono fun _ _ => trivial
  · next v _ =>
    split
    · refine (isPacked_contained encoding).bind fun packed _ => ?_
      split
      · exact (requireLength_contained v).bind fun _ _ => trivial
      · refine (declaredLength_contained _).bind fun declared _ => ?_
        split
        · exact (requireLength_contained v).bind fun _ _ => trivial
        · trivial
    · trivial

/-- The items of a value are calm, if it has any. -/
theorem iterate_contained (v : Value) : Contained CalmItems (iterate v) := by
  have calm : ∀ vs : List Value, CalmItems (vs.map .ok) := by
    intro vs i mem
    obtain ⟨v, -, rfl⟩ := List.mem_map.1 mem
    trivial
  cases v with
  | list vs => exact calm vs
  | tuple vs => exact calm vs
  | set vs => exact calm vs
  | dict es =>
    have keys := calm (es.map Prod.fst)
    rw [List.map_map] at keys
    exact keys
  | _ => exact rfl

namespace Act

open World

/-! ## The members of an entity -/

theorem safe_entity (e : Ref Entity) : Safe Calm Entity.Calm (entity e) :=
  safe_view fun _ h => h.entities e

theorem safe_setEntity (e : Ref Entity) {x : Entity} (calm : x.Calm) :
    Safe Calm (fun _ => True) (setEntity e x) :=
  safe_change fun _ h => h.setEntity e calm

theorem safe_newEntity {x : Entity} (calm : x.Calm) : Safe Calm (fun _ => True) (newEntity x) :=
  fun _ h => ⟨h.newEntity calm, trivial⟩

/-- Reading a member of a stand-in moves the stand-in on. -/
theorem safe_readMember (e : Ref Entity) {s : EntityScript} {member : EntityScript → Readings}
    {update : EntityScript → Readings → EntityScript} (calm : (member s).Calm)
    (updated : ∀ m : Readings, m.Calm → (update s m).Calm) :
    Safe Calm (fun _ => True) (readMember e s member update) := by
  obtain ⟨rest, item⟩ := calm.next
  exact (safe_setEntity (x := .scripted _) e (updated _ rest)).bind fun _ _ => safe_lift item

theorem safe_contentLength (e : Ref Entity) : Safe Calm (fun _ => True) (contentLength e) := by
  refine (safe_entity e).bind fun x calm => ?_
  cases x with
  | stored t bs type encoding => exact safe_pure trivial
  | once stream consumed length type encoding => exact safe_pure trivial
  | requestBody q body type encoding =>
    refine (safe_view (Q := fun _ => True) fun _ _ => trivial).bind fun request _ => ?_
    exact (safe_lift (requestLength_contained _ _)).bind fun _ _ => safe_pure trivial
  | responseBody p type encoding =>
    refine (safe_view (Q := fun _ => True) fun _ _ => trivial).bind fun response _ => ?_
    exact (safe_lift (responseLength_contained _ _)).bind fun _ _ => safe_pure trivial
  | scripted s =>
    exact safe_readMember e calm.length fun m hm =>
      ⟨calm.repeatable, hm, calm.type, calm.encoding, calm.contents⟩

theorem safe_repeatable (e : Ref Entity) : Safe Calm (fun _ => True) (repeatable e) := by
  refine (safe_entity e).bind fun x calm => ?_
  cases x with
  | responseBody p type encoding =>
    exact (safe_view (Q := fun _ => True) fun _ _ => trivial).bind fun _ _ => safe_pure trivial
  | scripted s =>
    exact safe_readMember e calm.repeatable fun m hm =>
      ⟨hm, calm.length, calm.type, calm.encoding, calm.contents⟩
  | _ => exact safe_pure trivial

theorem safe_contentType (e : Ref Entity) : Safe Calm (fun _ => True) (contentType e) := by
  refine (safe_entity e).bind fun x calm => ?_
  cases x with
  | scripted s =>
    exact safe_readMember e calm.type fun m hm =>
      ⟨calm.repeatable, calm.length, hm, calm.encoding, calm.contents⟩
  | _ => exact safe_pure trivial

theorem safe_contentEncoding (e : Ref Entity) : Safe Calm (fun _ => True) (contentEncoding e) := by
  refine (safe_entity e).bind fun x calm => ?_
  cases x with
  | scripted s =>
    exact safe_readMember e calm.encoding fun m hm =>
      ⟨calm.repeatable, calm.length, calm.type, hm, calm.contents⟩
  | _ => exact safe_pure trivial

/-! ## Opening -/

theorem safe_openBody (body : Body) : Safe Calm (fun _ => True) (openBody body) := by
  have iterated : ∀ v : Value,
      Safe Calm (fun _ => True) (do openSource (.ofItems (← lift (iterate v)))) :=
    fun v => (safe_lift (iterate_contained v)).bind fun _ calm =>
      safe_openSource (Source.calm_ofItems calm)
  cases body with
  | absent => exact iterated .null
  | bytes bs => exact safe_openSource (Source.calm_ofBytes bs)
  | buffer bs => exact safe_openSource (Source.calm_ofBytes bs)
  | text s => exact safe_openSource (Source.calm_ofBytes _)
  | file source => exact safe_newStream _
  | iterator items => exact safe_newStream _
  | value v => exact iterated v

theorem safe_openResponse (p : Ref Response) : Safe Calm (fun _ => True) (openResponse p) := by
  refine (safe_view (Q := fun _ => True) fun _ _ => trivial).bind fun response _ => ?_
  split
  · split
    · split
      · exact safe_openSource (Source.calm_ofBytes _)
      · exact safe_throw rfl
    · exact safe_openSource (Source.calm_ofBytes [])
  · split
    · exact safe_throw rfl
    · exact safe_newStream _

theorem safe_openContent (e : Ref Entity) : Safe Calm (fun _ => True) (openContent e) := by
  refine (safe_entity e).bind fun x calm => ?_
  cases x with
  | stored t bs type encoding => exact safe_openSource (Source.calm_ofBytes bs)
  | once stream consumed length type encoding =>
    dsimp only
    split
    · exact safe_throw rfl
    · exact (safe_setEntity (x := .once ..) e trivial).bind fun _ _ => safe_pure trivial
  | requestBody q body type encoding => exact safe_openBody body
  | responseBody p type encoding => exact safe_openResponse p
  | scripted s =>
    have noted : Safe Calm (fun _ => True) (note (.opened s.name s.opened)) :=
      safe_change fun _ h => h.of_same rfl rfl rfl rfl
    refine noted.bind fun _ _ => ?_
    refine (safe_setEntity (x := .scripted _) e calm.afterOpening).bind fun _ _ => ?_
    exact (safe_lift calm.nextContent).bind fun plan hp => safe_openSource (hp.build _)

/-! ## The entity of a message -/

/-- A missing member counts as nothing; any other fault stays what it is. -/
theorem safe_orNothing {α : Type} {P : World → Prop} {Q : α → Prop} {a : Act α} {nothing : α}
    (ha : Safe P Q a) (hn : Q nothing) : Safe P Q (orNothing a nothing) := by
  refine ha.observe.bind fun r contained => ?_
  cases r with
  | ok x => exact safe_pure contained
  | error f =>
    dsimp only
    split
    · exact safe_pure hn
    · exact safe_throw contained

theorem safe_requestEntity (q : Ref Request) : Safe Calm (fun _ => True) (requestEntity q) := by
  refine (safe_view (Q := fun _ => True) fun _ _ => trivial).bind fun request _ => ?_
  split
  · exact safe_pure trivial
  · split
    · exact safe_throw rfl
    · exact (safe_newEntity (x := .requestBody ..) trivial).bind fun _ _ => safe_pure trivial

theorem safe_responseEntity (p : Ref Response) : Safe Calm (fun _ => True) (responseEntity p) := by
  refine (safe_view (Q := fun _ => True) fun _ _ => trivial).bind fun response _ => ?_
  split
  · exact safe_throw rfl
  · exact (safe_newEntity (x := .responseBody ..) trivial).bind fun _ _ => safe_pure trivial

theorem safe_messageEntity (m : Ref Message) : Safe Calm (fun _ => True) (messageEntity m) := by
  refine (safe_view (Q := Message.Calm) fun _ h => h.messages m).bind fun x calm => ?_
  cases x with
  | plain e status => exact safe_pure trivial
  | readOnly e status => exact safe_pure trivial
  | broken f status => exact safe_throw calm.1
  | bare status => exact safe_throw rfl
  | request q =>
    cases q with
    | none => exact safe_throw rfl
    | some q => exact safe_requestEntity q
  | response p =>
    cases p with
    | none => exact safe_throw rfl
    | some p => exact safe_responseEntity p

theorem safe_entityBytes (e : Ref Entity) : Safe Calm (fun _ => True) (entityBytes e) := by
  have opened : Safe Calm (fun _ => True) (do
      let r ← openContent e
      enterStream r
      ensuring (readStream r (-1)) (closeStream r)) := by
    refine (safe_openContent e).bind fun r _ => ?_
    have entered : Safe Calm (fun _ => True) (enterStream r) := by
      refine (safe_view (Q := fun _ => True) fun _ _ => trivial).bind fun closed _ => ?_
      split
      · exact safe_throw rfl
      · exact safe_pure trivial
    exact entered.bind fun _ _ => (safe_readStream r _).ensuring (safe_closeStream r)
  refine (safe_entity e).bind fun x _ => ?_
  cases x with
  | stored t bs type encoding => exact safe_pure trivial
  | _ => exact opened

theorem safe_changeHeaders (q : Ref Request) (f : Headers → Headers) :
    Safe Calm (fun _ => True) (changeHeaders q f) := by
  refine (safe_view (Q := fun _ => True) fun _ _ => trivial).bind fun request _ => ?_
  split
  · exact safe_throw rfl
  · exact safe_change fun _ h => h.of_same rfl rfl rfl rfl

theorem safe_installBody (q : Option (Ref Request)) (body : Value) :
    Safe Calm (fun _ => True) (installBody q body) := by
  cases q with
  | none => exact safe_throw rfl
  | some q =>
    have changed : Safe Calm (fun _ => True)
        (changeRequest q fun r => { r with body := .ofValue body }) :=
      safe_change fun _ h => h.of_same rfl rfl rfl rfl
    refine changed.bind fun _ _ => (safe_changeHeaders q _).bind fun _ _ => ?_
    exact (safe_lift (requireLength_contained body)).bind fun n _ => safe_changeHeaders q _

theorem safe_installContent (p : Option (Ref Response)) (content : Value) :
    Safe Calm (fun _ => True) (installContent p content) := by
  cases p with
  | none => exact safe_throw rfl
  | some p => exact safe_change fun _ h => h.of_same rfl rfl rfl rfl

theorem safe_setMessageEntity (m : Ref Message) (e : Option (Ref Entity)) :
    Safe Calm (fun _ => True) (setMessageEntity m e) := by
  refine (safe_view (Q := Message.Calm) fun _ h => h.messages m).bind fun x calm => ?_
  cases x with
  | plain x status => exact safe_change fun _ h => h.setMessage m (x := .plain e status) calm
  | bare status => exact safe_change fun _ h => h.setMessage m (x := .plain e status) calm
  | readOnly x status => exact safe_throw rfl
  | broken f status => exact safe_throw rfl
  | request q =>
    cases e with
    | none => exact safe_pure trivial
    | some e => exact (safe_entityBytes e).bind fun body _ => safe_installBody q body
  | response p =>
    cases e with
    | none => exact safe_pure trivial
    | some e => exact (safe_entityBytes e).bind fun content _ => safe_installContent p content

end Act
end HttpTap
