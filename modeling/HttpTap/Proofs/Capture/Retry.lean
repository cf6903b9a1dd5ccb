import HttpTap.Proofs.Capture.BufferFirst
import HttpTap.Proofs.Text.Numeral

/-!
# Recording a request again

A request that is sent again is recorded again, and by then it is not the request that it was.  A
body that could be read once has been read and put back in one, under headers that announce its
length, so that the first recording goes through a stream and an observed length and the second one
through bytes in memory and a declared one.

`onStart_repeats` says that nobody can tell.  The first recording puts the attributes of the body,
and leaves the request such that recording it puts them again and leaves it as it is, in whatever
world and for whatever target (`Request.Records`).  The length that is declared must be none that
can be read, or the right one.  The other half is about assigning an entity in memory: from then on
the message has an entity that can be read as often as one likes, and whose length is known.
-/

namespace HttpTap

/-! ## The length that is announced -/

namespace Headers

/-- The length that is announced is declared, unless it has too many digits to be read. -/
theorem declaredLength_announcing (h : Headers) (n : Nat) :
    declaredLength (some (h.announcing n)) = .ok n ∨
      declaredLength (some (h.announcing n)) = .ok unknownLength := by
  rw [declaredLength, Option.bind_some, get?_announcing_length]
  dsimp only [Value.toInteger]
  rw [Text.decimal?_toString]
  by_cases short : (Nat.toDigits 10 n).length ≤ Text.maxDigits
  · rw [if_pos short]
    exact .inl (congrArg Except.ok (if_pos (Int.natCast_nonneg n)))
  · rw [if_neg short]
    exact .inr rfl

end Headers

/-- Under headers that announce them, bytes have the length that they have. -/
theorem requestLength_announcing (h : Headers) (c : Bytes) :
    requestLength (some (h.announcing c.length)) (.bytes c) = .ok c.length := by
  rw [requestLength]
  rcases h.declaredLength_announcing c.length with known | unknown
  · rw [known]
    rfl
  · rw [unknown]
    rfl

namespace Request

variable {q : Request} {h : Headers} {c : Bytes} {limit : Int}

/-- The request with its body put back in one. -/
def buffered (q : Request) (h : Headers) (c : Bytes) : Request :=
  { q with body := .bytes c, headers := some (h.announcing c.length) }

/-- A request has the same attributes when its body was put back in one, as long as no wrong length
is declared. -/
theorem recorded_buffered (headers : q.headers = some h) (filled : q.body ≠ .absent)
    (once : q.body.isHeld = false) (pos : 0 < limit)
    (length : declaredLength (some h) = .ok unknownLength ∨
      declaredLength (some h) = .ok c.length) :
    (q.buffered h c).recorded limit c = q.recorded limit c := by
  have unheld : q.body.byteLength? = none := by
    cases body : q.body with
    | bytes bs | buffer bs =>
      rw [body] at once
      exact nomatch once
    | _ => rfl
  rw [recorded_of_filled headers filled, Act.requestLength_of_unheld unheld, once]
  rw [recorded_of_filled (show (q.buffered h c).headers = some _ from rfl)
    (show (q.buffered h c).body ≠ .absent from nofun)]
  show attributesFrom requestKeys limit (requestLength (some (h.announcing c.length)) (.bytes c))
    none c = attributesFrom requestKeys limit (declaredLength (some h)) (some c.length) c
  rw [requestLength_announcing]
  by_cases none : c = []
  · subst none
    rw [attributesFrom_nil, attributesFrom_nil]
  rcases length with unknown | right
  · rw [unknown]
    exact (attributesFrom_unknown requestKeys pos (by decide) none).symm
  · rw [right]
    exact (attributesFrom_declared requestKeys pos (Int.natCast_nonneg _) none _).symm

end Request

/-- The target has been told these attributes and nothing else, as far as it takes them. -/
def World.Puts (w w' : World) (t : Target) (attributes : List (String × Value)) : Prop :=
  t.state w' = t.state (Act.go (Act.putAttributes t attributes) w).2

/-- Wherever the request is recorded, the target is told these attributes, and the request stays
what it is. -/
def Request.Records (r : Request) (s : CaptureSettings) (attributes : List (String × Value)) :
    Prop :=
  ∀ (w : World) (m : Ref Message) (q : Ref Request) (t : Target),
    w.messages.get m = .request (some q) → w.requests.get q = r →
      ∃ w', Act.go (Act.onStart s t (some m)) w = (.ok (), w') ∧ w.Puts w' t attributes ∧
        w'.requests.get q = r

/-- However it is used, the entity says that it can be read again and how long it is, and each time
it is read it has the whole of `c`. -/
structure World.Repeats (w : World) (e : Ref Entity) (c : Bytes) : Prop where
  repeatable : ∀ w', World.Uses e w w' → Act.go (Act.repeatable e) w' = (.ok (.bool true), w')
  length : ∀ w', World.Uses e w w' →
    Act.go (Act.contentLength e) w' = (.ok (.int c.length), w')
  replays : w.Replays e c

namespace Act

open World

variable {w w' w₁ : World} {m : Ref Message} {q : Ref Request} {h : Headers} {e : Ref Entity}
  {c : Bytes} {s : CaptureSettings} {attributes : List (String × Value)}

/-! ## One recording -/

theorem puts_of_attributes (t : Target) (records : s.recordsRequests = true)
    (given : go (attributesOf m (recordEntity true s.limit requestKeys)) w = (.ok attributes, w₁)) :
    ∃ w', go (onStart s t (some m)) w = (.ok (), w') ∧ w.Puts w' t attributes := by
  obtain ⟨w', recorded, -, untold⟩ := go_onStart_of_attributes t records given
  have before : w.Untold w₁ := (untold_attributesOf m true s.limit requestKeys).of_go given
  exact ⟨w', recorded, (state_of_untold untold t).trans
    (putAttributes_congr attributes (state_of_untold before t))⟩

/-- Recording a request puts the attributes of its body. -/
theorem onStart_puts (t : Target) (records : s.recordsRequests = true)
    (message : w.messages.get m = .request (some q))
    (reads : w.Reads c (w.requests.get q).body) :
    ∃ w', go (onStart s t (some m)) w = (.ok (), w') ∧
      w.Puts w' t ((w.requests.get q).recorded s.limit c) := by
  obtain ⟨w₁, given, -⟩ := go_attributesOf_request message reads s.limit_pos
  exact puts_of_attributes t records given

/-- A body that is declared to be empty is not looked at, and nothing is put. -/
theorem onStart_puts_nothing (t : Target) (records : s.recordsRequests = true)
    (message : w.messages.get m = .request (some q))
    (headers : (w.requests.get q).headers = some h) (zero : declaredLength (some h) = .ok 0) :
    ∃ w', go (onStart s t (some m)) w = (.ok (), w') ∧ w.Puts w' t [] := by
  by_cases filled : (w.requests.get q).body = .absent
  · have entity := go_messageEntity_absent message filled
    exact puts_of_attributes t records (go_attributesOf_of_none (go_orNothing_of_ok entity))
  · have entity := go_messageEntity_request message headers filled
    generalize (w.requests.get q).body = b at entity
    set x : Entity := .requestBody q b (h.lookup typeHeader) (h.lookup encodingHeader)
    set w₁ : World := { w with entities := (w.entities.alloc x).2 }
    have hx : w₁.entities.get w.entities.next = x := Store.get_alloc_same _ _
    have length : go (contentLength w.entities.next) w₁ = (.ok (.int 0), w₁) := by
      rw [go_contentLength hx rfl]
      show ((requestLength (w.requests.get q).headers b).map Value.int, w₁) = _
      rw [headers, requestLength, zero]
      rfl
    exact puts_of_attributes t records (go_attributesOf_of_capture (go_orNothing_of_ok entity)
      (go_capture_of_zero length rfl) rfl)

/-! ## A request that stays what it is -/

section Records

variable {r : Request}

theorem records_of_off (off : s.recordsRequests = false) (r : Request) : r.Records s [] := by
  intro w m q t message same
  refine ⟨w, ?_, rfl, same⟩
  rw [onStart, off]
  rfl

/-- A request that is left alone is the same the next time. -/
theorem records_of_left (headers : r.headers = some h) (records : s.recordsRequests = true)
    (left : r.body = .absent ∨ r.body.isHeld = true ∨ declaredLength (some h) = .ok 0)
    (puts : ∀ (w : World) (m : Ref Message) (q : Ref Request) (t : Target),
      w.messages.get m = .request (some q) → w.requests.get q = r →
        ∃ w', go (onStart s t (some m)) w = (.ok (), w') ∧ w.Puts w' t attributes) :
    r.Records s attributes := by
  intro w m q t message same
  obtain ⟨w', recorded, told⟩ := puts w m q t message same
  subst same
  obtain ⟨w'', again, untouched⟩ := go_onStart_of_left (t := t) message headers records left
  obtain rfl : w' = w'' := (Prod.mk.inj (recorded.symm.trans again)).2
  exact ⟨w', recorded, told, by rw [untouched.requests]⟩

/-- A request whose body is in memory, or that has none, is recorded alike again and again. -/
theorem records_of_held (headers : r.headers = some h) (records : s.recordsRequests = true)
    (held : r.body = .absent ∨ r.body.isHeld = true) (reads : ∀ w : World, w.Reads c r.body) :
    r.Records s (r.recorded s.limit c) := by
  refine records_of_left headers records (held.imp_right Or.inl) fun w m q t message same => ?_
  subst same
  exact onStart_puts t records message (reads w)

theorem records_of_zero (headers : r.headers = some h) (records : s.recordsRequests = true)
    (zero : declaredLength (some h) = .ok 0) : r.Records s [] := by
  refine records_of_left headers records (.inr (.inr zero)) fun w m q t message same => ?_
  subst same
  exact onStart_puts_nothing t records message headers zero

/-- A body in memory, or none, reads the same in every world. -/
theorem reads_of_held {body : Body} (held : body = .absent ∨ body.isHeld = true)
    (reads : w.Reads c body) (w' : World) : w'.Reads c body := by
  cases body with
  | absent | bytes bs | buffer bs | text x => exact reads
  | file source | iterator items | value v => exact absurd held (by simp [Body.isHeld])

end Records

/-! ## The first recording and the next -/

section Settling

variable {t : Target}

/-- A body that is in memory, or not there, stays what it is. -/
theorem onStart_settles_of_held (records : s.recordsRequests = true)
    (message : w.messages.get m = .request (some q))
    (headers : (w.requests.get q).headers = some h)
    (reads : w.Reads c (w.requests.get q).body)
    (held : (w.requests.get q).body = .absent ∨ (w.requests.get q).body.isHeld = true) :
    ∃ w', go (onStart s t (some m)) w = (.ok (), w') ∧
      (w'.requests.get q).Records s ((w.requests.get q).recorded s.limit c) := by
  obtain ⟨w', recorded, untouched⟩ := go_onStart_of_left (t := t) message headers records
    (held.imp_right Or.inl)
  refine ⟨w', recorded, ?_⟩
  rw [untouched.requests]
  exact records_of_held headers records held (reads_of_held held reads)

/-- A body that is declared to be empty, and is, is not looked at. -/
theorem onStart_settles_of_zero (records : s.recordsRequests = true)
    (message : w.messages.get m = .request (some q))
    (headers : (w.requests.get q).headers = some h) (filled : (w.requests.get q).body ≠ .absent)
    (zero : declaredLength (some h) = .ok 0) :
    ∃ w', go (onStart s t (some m)) w = (.ok (), w') ∧
      (w'.requests.get q).Records s ((w.requests.get q).recorded s.limit []) := by
  obtain ⟨w', recorded, untouched⟩ := go_onStart_of_left (t := t) message headers records
    (.inr (.inr zero))
  refine ⟨w', recorded, ?_⟩
  rw [untouched.requests, Request.recorded_of_filled headers filled, attributesFrom_nil]
  exact records_of_zero headers records zero

/-- A body that can be read once is put back in one, and is in memory from then on. -/
theorem onStart_settles_of_once {d : Int} (records : s.recordsRequests = true)
    (message : w.messages.get m = .request (some q))
    (headers : (w.requests.get q).headers = some h)
    (reads : w.Reads c (w.requests.get q).body) (filled : (w.requests.get q).body ≠ .absent)
    (once : (w.requests.get q).body.isHeld = false) (declared : declaredLength (some h) = .ok d)
    (nonzero : d ≠ 0) :
    ∃ w', go (onStart s t (some m)) w = (.ok (), w') ∧
      (w'.requests.get q).Records s (((w.requests.get q).buffered h c).recorded s.limit c) := by
  have unheld : (w.requests.get q).body.byteLength? = none := by
    rw [byteLength?_of_reads reads]
    generalize (w.requests.get q).body = body at filled once
    cases body with
    | absent => exact absurd rfl filled
    | bytes bs | buffer bs | text x => exact nomatch once
    | file source | iterator items | value v => rfl
  have offers := offers_reads (w := { w with entities := (w.entities.alloc (.requestBody q
    (w.requests.get q).body (h.lookup typeHeader) (h.lookup encodingHeader))).2 })
    (Store.get_alloc_same _ _) filled (reads.of_same rfl rfl)
  rw [once] at offers
  obtain ⟨w', recorded, final⟩ := go_onStart_of_offers (t := t) message headers records filled
    unheld offers declared nonzero
  refine ⟨w', recorded, ?_⟩
  rw [final]
  exact records_of_held rfl records (.inr rfl) fun _ => rfl

/-- The request that a recording leaves is recorded like the one that it was given. -/
theorem onStart_settles (records : s.recordsRequests = true)
    (message : w.messages.get m = .request (some q))
    (headers : (w.requests.get q).headers = some h)
    (reads : w.Reads c (w.requests.get q).body)
    (length : declaredLength (some h) = .ok unknownLength ∨
      declaredLength (some h) = .ok c.length) :
    ∃ w', go (onStart s t (some m)) w = (.ok (), w') ∧
      (w'.requests.get q).Records s ((w.requests.get q).recorded s.limit c) := by
  by_cases held : (w.requests.get q).body = .absent ∨ (w.requests.get q).body.isHeld = true
  · exact onStart_settles_of_held records message headers reads held
  obtain ⟨filled, once⟩ : (w.requests.get q).body ≠ .absent ∧
      (w.requests.get q).body.isHeld = false := by
    simpa using held
  rcases length with unknown | right
  · rw [← Request.recorded_buffered headers filled once s.limit_pos (.inl unknown)]
    exact onStart_settles_of_once records message headers reads filled once unknown (by decide)
  · by_cases nothing : c = []
    · subst nothing
      exact onStart_settles_of_zero records message headers filled right
    · have some_bytes : (c.length : Int) ≠ 0 := by simpa using nothing
      rw [← Request.recorded_buffered headers filled once s.limit_pos (.inr right)]
      exact onStart_settles_of_once records message headers reads filled once right some_bytes

end Settling

/-! ## An entity in memory -/

/-- Bytes that a request has as its body, under headers that announce them. -/
theorem repeats_requestBody {type encoding : Value}
    (hx : w.entities.get e = .requestBody q (.bytes c) type encoding)
    (headers : (w.requests.get q).headers = some (h.announcing c.length)) : w.Repeats e c := by
  have still {w' : World} (uses : Uses e w w') :
      w'.entities.get e = .requestBody q (.bytes c) type encoding := by
    rcases get_of_uses hx rfl uses with same | same <;> exact same
  refine ⟨fun w' uses => go_repeatable (still uses) rfl, fun w' uses => ?_,
    replays_of_openSource fun w' uses => go_openContent_requestBody (still uses)⟩
  rw [go_contentLength (still uses) rfl]
  show ((requestLength (w'.requests.get q).headers (.bytes c)).map Value.int, w') = _
  rw [uses.consulted.requests, headers, requestLength_announcing]
  rfl

/-- Assigning an entity in memory gives the request its bytes, and its entity repeats them. -/
theorem setMessageEntity_repeats {isText : Bool} {type encoding : Value}
    (message : w.messages.get m = .request (some q))
    (headers : (w.requests.get q).headers = some h)
    (stored : w.entities.get e = .stored isText c type encoding) :
    ∃ w₁, go (setMessageEntity m (some e)) w = (.ok (), w₁) ∧
      ∀ (w₂ : World) (m' : Ref Message) (q' : Ref Request),
        w₂.messages.get m' = .request (some q') → w₂.requests.get q' = w₁.requests.get q →
          ∃ e' w₃, go (messageEntity m') w₂ = (.ok (some e'), w₃) ∧ w₃.Repeats e' c := by
  refine ⟨_, (go_setMessageEntity_of_content message (go_entityBytes_stored stored)).trans
    (go_installBody headers c), fun w₂ m' q' message' same => ?_⟩
  have final : w₂.requests.get q' = (w.requests.get q).buffered h c :=
    same.trans (Store.get_set_same _ _ _)
  have announced : (w₂.requests.get q').headers = some (h.announcing c.length) := by
    rw [final]
    rfl
  have entity := go_messageEntity_request message' announced (by rw [final]; exact nofun)
  rw [final] at entity
  exact ⟨_, _, entity, repeats_requestBody (Store.get_alloc_same _ _) announced⟩

/-! ## What it comes to -/

/-- Recording a request whose length is not declared wrongly puts its attributes, and recording it
again, anywhere, puts the same ones and changes nothing about it.  Once an entity in memory was
assigned to it, its entity can be read again and again. -/
theorem onStart_repeats (message : w.messages.get m = .request (some q))
    (headers : (w.requests.get q).headers = some h) :
    (∀ (t : Target) (c : Bytes), w.Reads c (w.requests.get q).body →
      declaredLength (some h) = .ok unknownLength ∨ declaredLength (some h) = .ok c.length →
        ∃ attributes w', go (onStart s t (some m)) w = (.ok (), w') ∧ w.Puts w' t attributes ∧
          (w'.requests.get q).Records s attributes) ∧
    (∀ (e : Ref Entity) (isText : Bool) (b : Bytes) (type encoding : Value),
      w.entities.get e = .stored isText b type encoding →
        ∃ w₁, go (setMessageEntity m (some e)) w = (.ok (), w₁) ∧
          ∀ (w₂ : World) (m' : Ref Message) (q' : Ref Request),
            w₂.messages.get m' = .request (some q') → w₂.requests.get q' = w₁.requests.get q →
              ∃ e' w₃, go (messageEntity m') w₂ = (.ok (some e'), w₃) ∧ w₃.Repeats e' b) := by
  refine ⟨fun t c reads length => ?_,
    fun e isText b type encoding stored => setMessageEntity_repeats message headers stored⟩
  by_cases records : s.recordsRequests = true
  · obtain ⟨w', recorded, puts⟩ := onStart_puts t records message reads
    obtain ⟨w'', again, settled⟩ := onStart_settles (t := t) records message headers reads length
    obtain rfl : w' = w'' := (Prod.mk.inj (recorded.symm.trans again)).2
    exact ⟨_, w', recorded, puts, settled⟩
  · obtain ⟨w', recorded, puts, same⟩ := records_of_off (Bool.eq_false_iff.2 records)
      (w.requests.get q) w m q t message rfl
    rw [← same] at *
    exact ⟨[], w', recorded, puts, records_of_off (Bool.eq_false_iff.2 records) _⟩

/-- The three pieces of `upload` under a length that is no number, and an entity of two bytes. -/
def uploadUnsized : World :=
  { upload with
    requests := Store.empty.set ⟨0⟩ ⟨some "POST", some "mock://h/",
      some ⟨[("Content-Length", .text "soon"), ("Transfer-Encoding", .text "chunked")]⟩,
      .iterator ⟨0⟩⟩
    entities := Store.empty.set ⟨0⟩ (.ofBytes [104, 105] .null .null) }

/-- A new message for the request. -/
def withMessage (w : World) : World :=
  { w with messages := (w.messages.alloc (.request (some ⟨0⟩))).2 }

/-- The request is recorded, and recorded once more in another message; and two other bytes are
assigned to it. -/
theorem onStart_repeats_upload :
    let settings : CaptureSettings := { CaptureSettings.standard with requests := .bool true }
    ∃ attributes w' w'' w₁ e' w₃,
      go (onStart settings (.sink ⟨0⟩) (some ⟨0⟩)) uploadUnsized = (.ok (), w') ∧
      uploadUnsized.Puts w' (.sink ⟨0⟩) attributes ∧
      go (onStart settings (.sink ⟨0⟩) (some w'.messages.next)) (withMessage w') = (.ok (), w'') ∧
      (withMessage w').Puts w'' (.sink ⟨0⟩) attributes ∧
      w''.requests.get ⟨0⟩ = w'.requests.get ⟨0⟩ ∧
      go (setMessageEntity ⟨0⟩ (some ⟨0⟩)) uploadUnsized = (.ok (), w₁) ∧
      go (messageEntity w₁.messages.next) (withMessage w₁) = (.ok (some e'), w₃) ∧
      w₃.Repeats e' [104, 105] := by
  intro settings
  have message : uploadUnsized.messages.get ⟨0⟩ = .request (some ⟨0⟩) := rfl
  obtain ⟨twice, assigned⟩ := onStart_repeats (s := settings) message rfl
  have reads : uploadUnsized.Reads [195, 169, 33] (uploadUnsized.requests.get ⟨0⟩).body :=
    supplies_pieces [.text "é", .bytes [], .bytes [33]]
  obtain ⟨attributes, w', recorded, puts, settled⟩ :=
    twice (.sink ⟨0⟩) _ reads (.inl (by decide +kernel))
  obtain ⟨w'', again, putsAgain, same⟩ :=
    settled (withMessage w') w'.messages.next ⟨0⟩ (.sink ⟨0⟩) (Store.get_alloc_same _ _) rfl
  obtain ⟨w₁, installed, later⟩ := assigned ⟨0⟩ false [104, 105] .null .null rfl
  obtain ⟨e', w₃, entity, repeats⟩ :=
    later (withMessage w₁) w₁.messages.next ⟨0⟩ (Store.get_alloc_same _ _) rfl
  exact ⟨attributes, w', w'', w₁, e', w₃, recorded, puts, again, putsAgain, same, installed,
    entity, repeats⟩

end Act
end HttpTap
