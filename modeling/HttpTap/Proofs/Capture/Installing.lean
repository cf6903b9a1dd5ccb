import HttpTap.Proofs.Capture.Attributes

/-!
# Assigning an entity to a request

Assigning an entity to a request gets the content of the entity and then takes three steps: the
content becomes the body, the header that announces chunks is taken away, and the length of the
content is declared.

Getting the content may fail in every way in which an entity can fail, and leaves the request alone
if it does.  Two of the steps may fail after the first one was taken, since there may be no headers,
and since what one read of a stream gives may have no length.  Then the new body stays, under the
old headers.  And a text has a length, but that counts characters where bytes are sent.

`setMessageEntity_allOrNothing_iff` puts this together.  An assignment is all or nothing exactly if
the content cannot be had or the request takes it (`Request.Takes`): bytes are taken by every
request that has headers, and so are texts of as many bytes as characters.
-/

namespace HttpTap

/-- The value is the body of the request, the length header says how many bytes it reads as, and no
header announces chunks. -/
structure World.Installed (w : World) (q : Ref Request) (v : Value) : Prop where
  body : (w.requests.get q).body = .ofValue v
  headers : ∃ h c, (w.requests.get q).headers = some h ∧ w.Reads c (.ofValue v) ∧
    h.get? lengthHeader = some (.text (toString c.length)) ∧
    ∀ name, Text.sameLetters name transferHeader = true → h.get? name = none

/-- Assigning the entity to the message installs its content in the request, or else it fails and
the request is what it was. -/
structure World.AllOrNothing (w : World) (m : Ref Message) (q : Ref Request)
    (e : Option (Ref Entity)) : Prop where
  nothing : ∀ f w', Act.go (Act.setMessageEntity m e) w = (.error f, w') →
    w'.requests.get q = w.requests.get q
  all : ∀ x w', e = some x → Act.go (Act.setMessageEntity m e) w = (.ok (), w') →
    ∃ v, (Act.go (Act.entityBytes x) w).1 = .ok v ∧ w'.Installed q v

/-- The request takes a value as its body: it has headers, and the value has as many elements as
there are bytes to be sent; or nothing would change before a step fails. -/
def Request.Takes (r : Request) (w : World) (v : Value) : Prop :=
  match r.headers, v.length? with
  | none, _ => r.body = .ofValue v
  | some h, none => r.body = .ofValue v ∧ h.erase transferHeader = h
  | some _, some n => ∃ c, w.Reads c (.ofValue v) ∧ n = c.length

namespace Request

variable {r : Request} {h : Headers} {w : World}

/-- Bytes are taken by every request that has headers. -/
theorem takes_bytes (headers : r.headers = some h) (c : Bytes) : r.Takes w (.bytes c) := by
  rw [Takes, headers]
  exact ⟨c, rfl, rfl⟩

end Request

/-- Numbers that are written alike are the same. -/
theorem toString_nat_injective {n k : Nat} (same : toString n = toString k) : n = k := by
  rw [Nat.toString_eq_ofList_toDigits, Nat.toString_eq_ofList_toDigits] at same
  have digits : Nat.toDigits 10 n = Nat.toDigits 10 k := String.ofList_injective same
  rw [← Nat.ofDigitChars_ten_toDigits (n := n), digits, Nat.ofDigitChars_ten_toDigits]

namespace Act

open World

variable {w w' w₁ : World} {m : Ref Message} {q : Ref Request} {h : Headers} {e : Ref Entity}
  {v : Value}

/-! ## Where it stops -/

/-- Without headers the second step fails, and the body is there already. -/
theorem go_installBody_of_bare (headers : (w.requests.get q).headers = none) (v : Value) :
    ∃ f, go (installBody (some q) v) w = (.error f, { w with
      requests := w.requests.set q { w.requests.get q with body := .ofValue v } }) := by
  have bare : ((w.requests.set q { w.requests.get q with body := .ofValue v }).get q).headers =
      none := by
    rw [Store.get_set_same]
    exact headers
  refine ⟨.noMember "NoneType" "pop", ?_⟩
  rw [go_installBody_eq]
  refine go_bind_of_error ?_ _
  rw [changeHeaders, go_bind, go_view]
  dsimp only
  rw [bare]
  rfl

/-- For a value without a length the third step fails, after the other two. -/
theorem go_installBody_of_unsized (headers : (w.requests.get q).headers = some h)
    (length : v.length? = none) :
    ∃ f, go (installBody (some q) v) w = (.error f, { w with
      requests := w.requests.set q { w.requests.get q with
        body := .ofValue v
        headers := some (h.erase transferHeader) } }) := by
  have first : ((w.requests.set q { w.requests.get q with body := .ofValue v }).get q).headers =
      some h := by
    rw [Store.get_set_same]
    exact headers
  refine ⟨.misuse .type ("object of type '" ++ v.typeName ++ "' has no len()"), ?_⟩
  rw [go_installBody_eq, go_bind, go_changeHeaders first, requireLength, length, Store.set_set,
    Store.get_set_same]
  rfl

/-- Content that cannot be had leaves the request alone. -/
theorem go_setMessageEntity_of_unread {f : Fault} (message : w.messages.get m = .request (some q))
    (failed : go (entityBytes e) w = (.error f, w₁)) :
    go (setMessageEntity m (some e)) w = (.error f, w₁) := by
  rw [setMessageEntity, go_bind, go_view, message]
  dsimp only
  rw [go_bind_of_error failed]

/-! ## All or nothing -/

/-- If an assignment comes to a fault, it is all or nothing exactly if the request was left as it
was. -/
theorem allOrNothing_of_error {f : Fault}
    (failed : go (setMessageEntity m (some e)) w = (.error f, w')) :
    w.AllOrNothing m q (some e) ↔ w'.requests.get q = w.requests.get q := by
  constructor
  · exact fun h => h.nothing f w' failed
  · refine fun same => ⟨fun f' w'' failed' => ?_, fun x w'' _ done => ?_⟩
    · obtain rfl := (Prod.mk.inj (failed.symm.trans failed')).2
      exact same
    · exact nomatch (Prod.mk.inj (failed.symm.trans done)).1

theorem allOrNothing_of_ok (content : (go (entityBytes e) w).1 = .ok v)
    (done : go (setMessageEntity m (some e)) w = (.ok (), w')) :
    w.AllOrNothing m q (some e) ↔ w'.Installed q v := by
  constructor
  · intro h
    obtain ⟨v', content', installed⟩ := h.all e w' rfl done
    obtain rfl := Except.ok.inj (content.symm.trans content')
    exact installed
  · refine fun installed => ⟨fun f w'' failed => ?_, fun x w'' same done' => ?_⟩
    · exact nomatch (Prod.mk.inj (done.symm.trans failed)).1
    · obtain rfl := Option.some.inj same
      obtain rfl := (Prod.mk.inj (done.symm.trans done')).2
      exact ⟨v, content, installed⟩

/-- A request of which the body and the headers were changed is what it was if they were these. -/
theorem get_set_eq_iff {requests : Store Request} {body : Body} {headers : Option Headers} :
    (requests.set q { requests.get q with body := body, headers := headers }).get q =
      requests.get q ↔ (requests.get q).body = body ∧ (requests.get q).headers = headers := by
  rw [Store.get_set_same]
  generalize requests.get q = r
  obtain ⟨method, url, headers', body'⟩ := r
  simp only [Request.mk.injEq, true_and]
  exact ⟨fun ⟨a, b⟩ => ⟨b.symm, a.symm⟩, fun ⟨a, b⟩ => ⟨b.symm, a.symm⟩⟩

/-- A body under headers that announce a length is installed if it reads as so many bytes. -/
theorem installed_announcing_iff {r : Request} {n : Nat} (final : w'.requests.get q =
      { r with body := .ofValue v, headers := some (h.announcing n) }) :
    w'.Installed q v ↔ ∃ c, w'.Reads c (.ofValue v) ∧ n = c.length := by
  constructor
  · rintro ⟨-, h', c, headers, reads, length, -⟩
    rw [final] at headers
    obtain rfl := Option.some.inj headers
    rw [Headers.get?_announcing_length] at length
    exact ⟨c, reads, toString_nat_injective (Value.text.inj (Option.some.inj length))⟩
  · rintro ⟨c, reads, rfl⟩
    refine ⟨by rw [final], h.announcing c.length, c, by rw [final], reads,
      h.get?_announcing_length _, fun name transfer => h.get?_announcing_transfer _ transfer⟩

/-- Getting the content of an entity leaves the requests alone. -/
theorem requests_entityBytes {x : Except Fault Value} (content : go (entityBytes e) w = (x, w₁)) :
    w₁.requests = w.requests :=
  ((keeps_entityBytes (R := Consulted) e).of_go content).requests

/-- Where the content can be had, the request decides. -/
theorem allOrNothing_of_content (message : w.messages.get m = .request (some q))
    (content : go (entityBytes e) w = (.ok v, w₁)) :
    w.AllOrNothing m q (some e) ↔ (w.requests.get q).Takes w₁ v := by
  have assigning := go_setMessageEntity_of_content message content
  rw [← requests_entityBytes content]
  cases headers : (w₁.requests.get q).headers with
  | none =>
    obtain ⟨f, failed⟩ := go_installBody_of_bare headers v
    rw [allOrNothing_of_error (assigning.trans failed), Request.Takes, headers,
      ← requests_entityBytes content]
    exact get_set_eq_iff.trans ⟨fun same => same.1, fun body => ⟨body, rfl⟩⟩
  | some h =>
    cases length : v.length? with
    | none =>
      obtain ⟨f, failed⟩ := go_installBody_of_unsized headers length
      rw [allOrNothing_of_error (assigning.trans failed), Request.Takes, headers, length,
        ← requests_entityBytes content]
      rw [get_set_eq_iff, headers, Option.some.injEq, eq_comm (a := h)]
    | some n =>
      have done := go_installBody_of_length headers length
      rw [allOrNothing_of_ok (by rw [content]) (assigning.trans done), Request.Takes, headers,
        length]
      rw [installed_announcing_iff (Store.get_set_same _ _ _)]
      exact exists_congr fun c => and_congr_left fun _ =>
        ⟨fun reads => reads.of_same rfl rfl, fun reads => reads.of_same rfl rfl⟩

/-- Assigning an entity to a request either installs its content, with headers that agree with it,
or fails and leaves the request as it was, exactly if the content cannot be had or the request
takes it. -/
theorem setMessageEntity_allOrNothing_iff (message : w.messages.get m = .request (some q))
    (e : Option (Ref Entity)) :
    w.AllOrNothing m q e ↔
      ∀ x v w', e = some x → go (entityBytes x) w = (.ok v, w') →
        (w.requests.get q).Takes w' v := by
  cases e with
  | none =>
    have done : go (setMessageEntity m none) w = (.ok (), w) := by
      rw [setMessageEntity, go_bind, go_view, message]
      rfl
    refine ⟨fun _ x v w' is => ?_, fun _ => ⟨fun f w' failed => ?_, fun x w' is => ?_⟩⟩
    · cases is
    · cases done.symm.trans failed
    · cases is
  | some e =>
    rcases content : go (entityBytes e) w with ⟨f | v, w₁⟩
    · rw [allOrNothing_of_error (go_setMessageEntity_of_unread message content),
        requests_entityBytes content]
      refine iff_of_true rfl fun x v w' is got => ?_
      obtain rfl := Option.some.inj is
      cases content.symm.trans got
    · rw [allOrNothing_of_content message content]
      refine ⟨fun takes x v' w' is got => ?_, fun h => h e v w₁ rfl content⟩
      obtain rfl := Option.some.inj is
      obtain ⟨read, rfl⟩ := Prod.mk.inj (content.symm.trans got)
      obtain rfl := Except.ok.inj read
      exact takes

/-- A request with these headers and a body of two bytes, and an entity of three bytes. -/
def replacing (headers : Option Headers) : World := { World.empty with
  requests := Store.empty.set ⟨0⟩ ⟨some "POST", some "mock://h/", headers, .bytes [97, 98]⟩
  entities := Store.empty.set ⟨0⟩ (.ofBytes [97, 98, 99] .null .null)
  messages := Store.empty.set ⟨0⟩ (.request (some ⟨0⟩)) }

theorem go_entityBytes_replacing (headers : Option Headers) :
    go (entityBytes ⟨0⟩) (replacing headers) =
      (.ok (.bytes [97, 98, 99]), replacing headers) := by
  have stored : (replacing headers).entities.get ⟨0⟩ =
      .stored false [97, 98, 99] .null .null := rfl
  exact go_entityBytes_stored stored

/-- With headers the three bytes are installed. -/
theorem setMessageEntity_allOrNothing_iff_bytes :
    (replacing (some ⟨[("Transfer-Encoding", .text "chunked")]⟩)).AllOrNothing ⟨0⟩ ⟨0⟩
      (some ⟨0⟩) := by
  refine (setMessageEntity_allOrNothing_iff rfl _).2 fun x v w' is got => ?_
  obtain rfl := Option.some.inj is
  obtain rfl : .bytes [97, 98, 99] = v :=
    Except.ok.inj (Prod.mk.inj ((go_entityBytes_replacing _).symm.trans got)).1
  exact Request.takes_bytes rfl _

/-- Without headers the assignment fails, and the three bytes are there nevertheless. -/
theorem setMessageEntity_halfDone :
    ∃ f w', go (setMessageEntity ⟨0⟩ (some ⟨0⟩)) (replacing none) = (.error f, w') ∧
      ((replacing none).requests.get ⟨0⟩).body = .bytes [97, 98] ∧
      (w'.requests.get ⟨0⟩).body = .bytes [97, 98, 99] ∧
      ¬ (replacing none).AllOrNothing ⟨0⟩ ⟨0⟩ (some ⟨0⟩) := by
  obtain ⟨f, failed⟩ := go_installBody_of_bare (w := replacing none) (q := ⟨0⟩) rfl
    (.bytes [97, 98, 99])
  have message : (replacing none).messages.get ⟨0⟩ = .request (some ⟨0⟩) := rfl
  have assigning :=
    (go_setMessageEntity_of_content message (go_entityBytes_replacing none)).trans failed
  refine ⟨f, _, assigning, rfl, rfl, fun atomic => ?_⟩
  have same := congrArg Request.body (atomic.nothing f _ assigning)
  exact absurd (Body.bytes.inj same) (by decide)

end Act
end HttpTap
