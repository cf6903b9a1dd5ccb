import HttpTap.Proofs.Capture.Recording
import HttpTap.Proofs.Reading.Gathering

/-!
# The body of a request survives

A body that can be read only once is read to its end when it is recorded, so it has to be put back,
and what describes it on the wire has to agree with what is sent.  `onStart_preserves_body` says
that both happen: the new body is the pieces of the old one in their order, the length header says
how long it is, no header announces chunks any more, and every other header is as it was.

A body that need not be read, or must not be, is left alone, with everything in it that was not
read yet.
-/

namespace HttpTap

/-! ## Pieces -/

/-- A piece of a body. -/
inductive Piece where
  | bytes (bs : Bytes)
  | text (s : String)

namespace Piece

/-- The piece as the program hands it out. -/
def value : Piece → Value
  | bytes bs => .bytes bs
  | text s => .text s

/-- The piece as it is sent. -/
def content : Piece → Bytes
  | bytes bs => bs
  | text s => Text.Utf8.encode s

theorem toBytes_value (p : Piece) : p.value.toBytes = .ok p.content := by
  cases p <;> rfl

/-- Pieces spell what they hold together. -/
theorem spelled (ps : List Piece) :
    List.Forall₂ (fun v bs => Value.toBytes v = .ok bs) (ps.map value) (ps.map content) := by
  rw [List.forall₂_map_left_iff, List.forall₂_map_right_iff]
  exact List.forall₂_same.2 fun p _ => toBytes_value p

end Piece

/-- A body that can be read once gives these pieces and then ends. -/
def World.Gives (w : World) (ps : List Piece) : Body → Prop
  | .file source =>
    ∃ rest, (w.onItsOwn source).reader.pieces streamChunkSize (w.onItsOwn source).state =
      (ps.map Piece.value, none, rest)
  | .iterator items => w.iterators.get items = ps.map fun p => .ok p.value
  | .value v => v = .list (ps.map Piece.value)
  | _ => False

namespace World

variable {w : World} {e : Ref Entity} {q : Ref Request} {body : Body} {type encoding : Value}
  {ps : List Piece}

theorem supplies_pieces (ps : List Piece) :
    Feed.items.Supplies (ps.map fun p => .ok p.value) (ps.flatMap Piece.content) := by
  have supplies := Feed.supplies_items (Piece.spelled ps)
  rw [List.map_map, ← List.flatMap_def] at supplies
  exact supplies

/-- What the entity of a body offers is its pieces in one. -/
theorem offers_pieces (hx : w.entities.get e = .requestBody q body type encoding)
    (gives : w.Gives ps body) : w.Offers Value.maxCount e false (ps.flatMap Piece.content) := by
  cases body with
  | file source =>
    obtain ⟨rest, pieces⟩ := gives
    refine offers_file hx ?_
    rw [List.flatMap_def]
    exact Feed.supplies_of_pieces pieces (Piece.spelled ps)
  | iterator items =>
    have left : w.iterators.get items = ps.map fun p => .ok p.value := gives
    refine offers_iterator hx ?_
    rw [left]
    exact supplies_pieces ps
  | value v =>
    obtain rfl : v = .list (ps.map Piece.value) := gives
    have items : iterate (.list (ps.map Piece.value)) = .ok (ps.map fun p => .ok p.value) := by
      show Except.ok ((ps.map Piece.value).map _) = _
      rw [List.map_map]
      rfl
    exact offers_value hx items (supplies_pieces ps)
  | absent => exact gives.elim
  | bytes bs => exact gives.elim
  | buffer bs => exact gives.elim
  | text s => exact gives.elim

end World

/-! ## Installing a body -/

/-- The headers of a request whose body has this length and is sent in one. -/
def Headers.announcing (h : Headers) (n : Nat) : Headers :=
  (h.erase transferHeader).insert lengthHeader (.text (toString n))

namespace Headers

theorem get?_announcing_length (h : Headers) (n : Nat) :
    (h.announcing n).get? lengthHeader = some (.text (toString n)) :=
  get?_insert_same _ _ _

/-- No header announces chunks, however its name is spelled. -/
theorem get?_announcing_transfer (h : Headers) (n : Nat) {name : String}
    (same : Text.sameLetters name transferHeader = true) : (h.announcing n).get? name = none := by
  have apart : Text.sameLetters transferHeader lengthHeader = false := by decide +kernel
  rw [get?_congr same, announcing, get?_insert_other apart, get?_erase_same]

theorem get?_announcing_other (h : Headers) (n : Nat) {name : String}
    (length : Text.sameLetters name lengthHeader = false)
    (transfer : Text.sameLetters name transferHeader = false) :
    (h.announcing n).get? name = h.get? name := by
  rw [announcing, get?_insert_other length, get?_erase_other transfer]

/-- The length that texts declare can always be read. -/
theorem declaredLength_of_texts {h : Headers} (texts : ∀ e ∈ h.entries, ∃ s, e.2 = .text s) :
    ∃ d, declaredLength (some h) = .ok d := by
  have text : ∀ v, h.get? lengthHeader = some v → ∃ s, v = .text s := by
    intro v found
    rw [get?, Option.map_eq_some_iff] at found
    obtain ⟨e, mem, rfl⟩ := found
    exact texts e (List.mem_of_find?_eq_some mem)
  rw [declaredLength, Option.bind_some]
  cases found : h.get? lengthHeader with
  | none => exact ⟨_, rfl⟩
  | some v =>
    obtain ⟨s, rfl⟩ := text v found
    dsimp only [Value.toInteger]
    cases Text.decimal? s with
    | none => exact ⟨_, rfl⟩
    | some n => exact ⟨_, rfl⟩

end Headers

/-- The request has these bytes as its body and headers that agree with them, and is as it was in
all other respects. -/
structure World.Sends (w w' : World) (q : Ref Request) (h : Headers) (c : Bytes) : Prop where
  body : (w'.requests.get q).body = .bytes c
  method : (w'.requests.get q).method = (w.requests.get q).method
  url : (w'.requests.get q).url = (w.requests.get q).url
  headers : ∃ h', (w'.requests.get q).headers = some h' ∧
    h'.get? lengthHeader = some (.text (toString c.length)) ∧
    (∀ name, Text.sameLetters name transferHeader = true → h'.get? name = none) ∧
    ∀ name, Text.sameLetters name lengthHeader = false →
      Text.sameLetters name transferHeader = false → h'.get? name = h.get? name

namespace Act

open World

variable {w w' : World} {m : Ref Message} {q : Ref Request} {h : Headers} {e : Ref Entity}
  {c : Bytes}

theorem go_changeHeaders (headers : (w.requests.get q).headers = some h) (f : Headers → Headers) :
    go (changeHeaders q f) w = (.ok (), { w with
      requests := w.requests.set q { w.requests.get q with headers := some (f h) } }) := by
  rw [changeHeaders, go_bind, go_view]
  dsimp only
  rw [headers]
  rfl

/-- Installing a body goes in three steps. -/
theorem go_installBody_eq (q : Ref Request) (v : Value) (w : World) :
    go (installBody (some q) v) w = go (do
      changeHeaders q (·.erase transferHeader)
      let n ← lift (requireLength v)
      changeHeaders q (·.insert lengthHeader (.text (toString n))))
        { w with requests := w.requests.set q { w.requests.get q with body := .ofValue v } } := rfl

/-- Installing a value of some length changes the body and the headers that describe it. -/
theorem go_installBody_of_length {v : Value} {n : Nat}
    (headers : (w.requests.get q).headers = some h) (length : v.length? = some n) :
    go (installBody (some q) v) w = (.ok (), { w with
      requests := w.requests.set q
        { w.requests.get q with body := .ofValue v, headers := some (h.announcing n) } }) := by
  have first : ((w.requests.set q { w.requests.get q with body := .ofValue v }).get q).headers =
      some h := by
    rw [Store.get_set_same]
    exact headers
  have second : ∀ r, (((w.requests.set q r).set q
      { (w.requests.set q r).get q with headers := some (h.erase transferHeader) }).get q).headers =
        some (h.erase transferHeader) := by
    intro r
    rw [Store.get_set_same]
  rw [go_installBody_eq, go_bind, go_changeHeaders first, requireLength, length]
  show go (changeHeaders q (·.insert lengthHeader (.text (toString n)))) _ = _
  rw [go_changeHeaders (second _), Store.set_set, Store.set_set, Store.get_set_same,
    Store.get_set_same]
  rfl

/-- Installing bytes. -/
theorem go_installBody (headers : (w.requests.get q).headers = some h) (c : Bytes) :
    go (installBody (some q) (.bytes c)) w = (.ok (), { w with
      requests := w.requests.set q
        { w.requests.get q with body := .bytes c, headers := some (h.announcing c.length) } }) :=
  go_installBody_of_length headers rfl

/-- The bytes of an entity in memory are at hand. -/
theorem go_entityBytes_stored {isText : Bool} {type encoding : Value}
    (stored : w.entities.get e = .stored isText c type encoding) :
    go (entityBytes e) w = (.ok (.bytes c), w) := by
  rw [entityBytes, go_bind, go_entity, stored]
  rfl

/-- Assigning an entity to a request installs what its content reads as. -/
theorem go_setMessageEntity_of_content {v : Value}
    (message : w.messages.get m = .request (some q))
    (content : go (entityBytes e) w = (.ok v, w')) :
    go (setMessageEntity m (some e)) w = go (installBody (some q) v) w' := by
  rw [setMessageEntity, go_bind, go_view, message]
  dsimp only
  rw [go_bind_of_ok content]

/-- Assigning a copy to a request installs its bytes. -/
theorem go_setMessageEntity_request (message : w.messages.get m = .request (some q))
    (headers : (w.requests.get q).headers = some h)
    (stored : ∃ type encoding, w.entities.get e = .stored false c type encoding) :
    go (setMessageEntity m (some e)) w = (.ok (), { w with
      requests := w.requests.set q
        { w.requests.get q with body := .bytes c, headers := some (h.announcing c.length) } }) := by
  obtain ⟨type, encoding, stored⟩ := stored
  rw [go_setMessageEntity_of_content message (go_entityBytes_stored stored)]
  exact go_installBody headers c

/-- The entity of a request that has a body. -/
theorem go_messageEntity_request (message : w.messages.get m = .request (some q))
    (headers : (w.requests.get q).headers = some h)
    (filled : (w.requests.get q).body ≠ .absent) :
    go (messageEntity m) w = (.ok (some w.entities.next), { w with
      entities := (w.entities.alloc (.requestBody q (w.requests.get q).body (h.lookup typeHeader)
        (h.lookup encodingHeader))).2 }) := by
  rw [messageEntity, go_bind, go_view, message]
  show go (requestEntity q) w = _
  rw [requestEntity, go_bind, go_view]
  dsimp only
  rw [headers]
  cases body : (w.requests.get q).body with
  | absent => exact absurd body filled
  | _ => rfl

/-- A request without headers has no entity. -/
theorem go_messageEntity_bare (message : w.messages.get m = .request (some q))
    (headers : (w.requests.get q).headers = none) (filled : (w.requests.get q).body ≠ .absent) :
    go (messageEntity m) w = (.error (.noMember "NoneType" "get"), w) := by
  rw [messageEntity, go_bind, go_view, message]
  show go (requestEntity q) w = _
  rw [requestEntity, go_bind, go_view]
  dsimp only
  rw [headers]
  cases body : (w.requests.get q).body with
  | absent => exact absurd body filled
  | _ => rfl

/-- A request without a body has no entity either. -/
theorem go_messageEntity_absent (message : w.messages.get m = .request (some q))
    (absent : (w.requests.get q).body = .absent) : go (messageEntity m) w = (.ok none, w) := by
  rw [messageEntity, go_bind, go_view, message]
  show go (requestEntity q) w = _
  rw [requestEntity, go_bind, go_view]
  dsimp only
  rw [absent]
  rfl

/-! ## What becomes of the request -/

/-- The length of a body that is not bytes is the one that the headers declare. -/
theorem requestLength_of_unheld {headers : Option Headers} {body : Body}
    (unheld : body.byteLength? = none) :
    requestLength headers body = declaredLength headers := by
  rw [requestLength]
  cases declaredLength headers with
  | error f => rfl
  | ok d =>
    show (if d = unknownLength then _ else _ : Except Fault Int) = .ok d
    by_cases unknown : d = unknownLength
    · rw [if_pos unknown, unheld, unknown]
      rfl
    · rw [if_neg unknown]
      rfl

/-- A body in pieces is not bytes. -/
theorem byteLength?_of_gives {ps : List Piece} {body : Body} (gives : w.Gives ps body) :
    body.byteLength? = none := by
  cases body with
  | bytes bs => exact gives.elim
  | buffer bs => exact gives.elim
  | _ => rfl

section OnStart

variable {s : CaptureSettings} {t : Target}

/-- Recording a request is a capture, and after the swap the target is told. -/
theorem go_onStart_of_capture {w₁ w₂ w₃ : World} {e : Option (Ref Entity)}
    {captured : CaptureResult} (records : s.recordsRequests = true)
    (entity : go (orNothing (messageEntity m) none) w = (.ok e, w₁))
    (capture : go (capture s.limit bufferChunkSize e) w₁ = (.ok captured, w₂))
    (swapped : go (if captured.replaced then setMessageEntity m captured.entity else pure ()) w₂ =
      (.ok (), w₃)) :
    ∃ w', go (onStart s t (some m)) w = (.ok (), w') ∧ w₃.Told w' := by
  obtain ⟨w', recorded, told⟩ :=
    go_recordMessage_of_capture t "request" requestKeys entity capture swapped
  refine ⟨w', ?_, told⟩
  rw [onStart, if_pos records]
  rw [← records] at recorded
  exact recorded

/-- A body that is read once is put back in one. -/
theorem go_onStart_of_offers (message : w.messages.get m = .request (some q))
    (headers : (w.requests.get q).headers = some h) (records : s.recordsRequests = true)
    (filled : (w.requests.get q).body ≠ .absent)
    (unheld : (w.requests.get q).body.byteLength? = none)
    (offers : World.Offers { w with entities := (w.entities.alloc (.requestBody q
      (w.requests.get q).body (h.lookup typeHeader) (h.lookup encodingHeader))).2 }
      Value.maxCount w.entities.next false c) {d : Int}
    (declared : declaredLength (some h) = .ok d) (nonzero : d ≠ 0) :
    ∃ w', go (onStart s t (some m)) w = (.ok (), w') ∧
      w'.requests.get q = { w.requests.get q with
        body := .bytes c
        headers := some (h.announcing c.length) } := by
  have entity := go_messageEntity_request message headers filled
  generalize body : (w.requests.get q).body = b at unheld offers entity
  set w₁ : World := { w with entities := (w.entities.alloc (.requestBody q b (h.lookup typeHeader)
    (h.lookup encodingHeader))).2 } with hw₁
  have hx : w₁.entities.get w.entities.next =
      .requestBody q b (h.lookup typeHeader) (h.lookup encodingHeader) := Store.get_alloc_same _ _
  have length : go (contentLength w.entities.next) w₁ = (.ok (.int d), w₁) := by
    rw [go_contentLength hx rfl]
    show ((requestLength (w.requests.get q).headers b).map Value.int, w₁) = _
    rw [headers, requestLength_of_unheld unheld, declared]
    rfl
  obtain ⟨captured, e', w₂, capture, copy, -⟩ := go_capture_of_once
    length rfl nonzero s.limit_pos (show 0 < bufferChunkSize by decide)
    (offers.mono (by decide))
  have consulted : w₁.Consulted w₂ :=
    (keeps_capture s.limit bufferChunkSize (some w.entities.next)).of_go capture
  have same : w₂.requests = w.requests := consulted.requests
  have swapped := go_setMessageEntity_request (w := w₂) (m := m) (q := q) (h := h) (e := e')
    (by rw [consulted.messages]; exact message) (by rw [same]; exact headers) copy.holds
  obtain ⟨w', recorded, told⟩ :=
    go_onStart_of_capture (t := t) records (go_orNothing_of_ok entity) capture swapped
  refine ⟨w', recorded, ?_⟩
  rw [told.requests]
  show (w₂.requests.set q _).get q = _
  rw [Store.get_set_same, same]

/-- A body in pieces is put back in one. -/
theorem go_onStart_of_gives (message : w.messages.get m = .request (some q))
    (headers : (w.requests.get q).headers = some h) (records : s.recordsRequests = true)
    {ps : List Piece} (gives : w.Gives ps (w.requests.get q).body) {d : Int}
    (declared : declaredLength (some h) = .ok d) (nonzero : d ≠ 0) :
    ∃ w', go (onStart s t (some m)) w = (.ok (), w') ∧
      w.Sends w' q h (ps.flatMap Piece.content) := by
  have filled : (w.requests.get q).body ≠ .absent := by
    intro absent
    rw [absent] at gives
    exact gives
  obtain ⟨w', recorded, final⟩ := go_onStart_of_offers (t := t) message headers records filled
    (byteLength?_of_gives gives) (offers_pieces (Store.get_alloc_same _ _) gives) declared nonzero
  refine ⟨w', recorded, ?_⟩
  refine ⟨by rw [final], by rw [final], by rw [final], _, by rw [final], ?_, ?_, ?_⟩
  · exact h.get?_announcing_length _
  · exact fun name transfer => h.get?_announcing_transfer _ transfer
  · exact fun name length transfer => h.get?_announcing_other _ length transfer

/-- A capture that hands nothing back leaves the message alone. -/
theorem go_onStart_of_kept {w₁ w₂ : World} {e : Option (Ref Entity)} {captured : CaptureResult}
    (records : s.recordsRequests = true)
    (entity : go (orNothing (messageEntity m) none) w = (.ok e, w₁))
    (capture : go (capture s.limit bufferChunkSize e) w₁ = (.ok captured, w₂))
    (kept : captured.replaced = false) :
    ∃ w', go (onStart s t (some m)) w = (.ok (), w') ∧ w₂.Told w' :=
  go_onStart_of_capture records entity capture (by rw [kept]; rfl)

/-- A body that is not there, is held, or is declared to be empty is left alone. -/
theorem go_onStart_of_left (message : w.messages.get m = .request (some q))
    (headers : (w.requests.get q).headers = some h) (records : s.recordsRequests = true)
    (left : (w.requests.get q).body = .absent ∨ (w.requests.get q).body.isHeld = true ∨
      declaredLength (some h) = .ok 0) :
    ∃ w', go (onStart s t (some m)) w = (.ok (), w') ∧ w.Untouched w' := by
  have result : ∃ e w₁ captured w₂, go (messageEntity m) w = (.ok e, w₁) ∧ w.Untouched w₁ ∧
      go (capture s.limit bufferChunkSize e) w₁ = (.ok captured, w₂) ∧ w₁.Untouched w₂ ∧
      captured.replaced = false := by
    by_cases absent : (w.requests.get q).body = .absent
    · refine ⟨none, w, ⟨none, none, false⟩, w, ?_, .refl w, rfl, .refl w, rfl⟩
      rw [messageEntity, go_bind, go_view, message]
      show go (requestEntity q) w = _
      rw [requestEntity, go_bind, go_view]
      dsimp only
      rw [absent]
      rfl
    · have entity := go_messageEntity_request message headers absent
      generalize body : (w.requests.get q).body = b at left absent entity
      set w₁ : World := { w with entities := (w.entities.alloc (.requestBody q b
        (h.lookup typeHeader) (h.lookup encodingHeader))).2 } with hw₁
      have hx : w₁.entities.get w.entities.next =
          .requestBody q b (h.lookup typeHeader) (h.lookup encodingHeader) :=
        Store.get_alloc_same _ _
      rcases left with none | held | zero
      · exact absurd none absent
      · obtain ⟨captured, w₂, capture, untouched⟩ :=
          go_capture_of_held bufferChunkSize hx rfl held s.limit_pos
        exact ⟨_, w₁, _, w₂, entity, ⟨rfl, rfl, rfl, .refl _⟩, capture, untouched, rfl⟩
      · have length : go (contentLength w.entities.next) w₁ = (.ok (.int 0), w₁) := by
          rw [go_contentLength hx rfl]
          show ((requestLength (w.requests.get q).headers b).map Value.int, w₁) = _
          rw [headers, requestLength, zero]
          rfl
        exact ⟨_, w₁, _, w₁, entity, ⟨rfl, rfl, rfl, .refl _⟩, go_capture_of_zero length rfl,
          .refl w₁, rfl⟩
  obtain ⟨e, w₁, captured, w₂, entity, made, capture, untouched, kept⟩ := result
  obtain ⟨w', recorded, told⟩ :=
    go_onStart_of_kept (t := t) records (go_orNothing_of_ok entity) capture kept
  exact ⟨w', recorded, made.trans (untouched.trans told.untouched)⟩

/-- When a request is recorded, the body that goes on the wire is the one that the program gave,
and the headers describe it. -/
theorem onStart_preserves_body (message : w.messages.get m = .request (some q))
    (headers : (w.requests.get q).headers = some h)
    (texts : ∀ e ∈ h.entries, ∃ x, e.2 = .text x) :
    (∀ ps, s.recordsRequests = true → w.Gives ps (w.requests.get q).body →
      declaredLength (some h) ≠ .ok 0 →
        ∃ w', go (onStart s t (some m)) w = (.ok (), w') ∧
          w.Sends w' q h (ps.flatMap Piece.content)) ∧
    (s.recordsRequests = false ∨ (w.requests.get q).body = .absent ∨
      (w.requests.get q).body.isHeld = true ∨ declaredLength (some h) = .ok 0 →
        ∃ w', go (onStart s t (some m)) w = (.ok (), w') ∧ w.Untouched w') := by
  obtain ⟨d, declared⟩ := Headers.declaredLength_of_texts texts
  constructor
  · intro ps records gives nonzero
    refine go_onStart_of_gives message headers records gives declared fun zero => ?_
    exact nonzero (declared.trans (congrArg Except.ok zero))
  · intro left
    cases records : s.recordsRequests with
    | false => exact ⟨w, by rw [onStart, records]; rfl, .refl w⟩
    | true =>
      rcases left with off | left
      · exact absurd (records.symm.trans off) Bool.noConfusion
      · exact go_onStart_of_left message headers records left

/-- A request whose body comes from an iterator, and a sink that takes nothing. -/
def upload : World := { World.empty with
  iterators := Store.empty.set ⟨0⟩ [.ok (.text "é"), .ok (.bytes []), .ok (.bytes [33])]
  requests := Store.empty.set ⟨0⟩ ⟨some "POST", some "mock://h/",
    some ⟨[("content-length", .text "99"), ("TRANSFER-ENCODING", .text "chunked"),
      ("X", .text "1")]⟩, .iterator ⟨0⟩⟩
  messages := Store.empty.set ⟨0⟩ (.request (some ⟨0⟩))
  sinks := Store.empty.set ⟨0⟩ ⟨[], some 0⟩ }

/-- The three pieces are sent in one, and the chunks are no longer announced. -/
theorem onStart_preserves_body_upload :
    ∃ w', go (onStart { CaptureSettings.standard with requests := .bool true } (.sink ⟨0⟩)
        (some ⟨0⟩)) upload = (.ok (), w') ∧
      (w'.requests.get ⟨0⟩).body = .bytes [195, 169, 33] ∧
      ∃ h', (w'.requests.get ⟨0⟩).headers = some h' ∧
        h'.get? "Content-Length" = some (.text "3") ∧ h'.get? "transfer-encoding" = none ∧
        h'.get? "x" = some (.text "1") := by
  have preserved := onStart_preserves_body (w := upload) (m := ⟨0⟩) (q := ⟨0⟩)
    (s := { CaptureSettings.standard with requests := .bool true }) (t := .sink ⟨0⟩) rfl rfl
    (by simp)
  obtain ⟨w', started, sends⟩ := preserved.1 [.text "é", .bytes [], .bytes [33]] rfl rfl
    (by decide +kernel)
  obtain ⟨h', found, length, transfer, other⟩ := sends.headers
  refine ⟨w', started, sends.body, h', found, length, transfer _ (by decide +kernel), ?_⟩
  rw [other "x" (by decide +kernel) (by decide +kernel)]
  rfl

end OnStart

end Act
end HttpTap
