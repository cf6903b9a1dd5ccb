import HttpTap.Exchange.Loading
import HttpTap.Exchange.Send
import HttpTap.Proofs.Entity.Offers

/-!
# Loaded responses

A response whose content is held in memory can be read in three ways: the content as a whole, the
content in pieces of any size, and through an entity that adapts the response.  `World.Yields` says
that all three give the same bytes, and `World.YieldsAlways` that they do so after any number of
such readings in any order, whatever streams were read or closed in between.

The invariant is `World.Loaded`.  No reading of a loaded response changes it (`Loaded.later`), and
each of the readings is settled by it (`Loaded.yields`).
-/

namespace HttpTap

/-- Open the content of a response through its entity. -/
def Act.openResponseEntity (p : Ref Response) : Act (Ref Stream) := do
  let m ← newMessage (.response (some p))
  match ← messageEntity m with
  | some e => openContent e
  | none => throw (.noMember "NoneType" "get_content")

namespace World

open Act

variable {w w' : World} {p : Ref Response} {c : Bytes}

/-- The content is in memory and is `c`. -/
structure Loaded (w : World) (p : Ref Response) (c : Bytes) : Prop where
  content : (w.responses.get p).content = .held (.bytes c)
  consumed : (w.responses.get p).consumed = true
  headers : ∃ h, (w.responses.get p).headers = some h

/-- One reading of a response, or some reading of streams. -/
inductive Reading (p : Ref Response) : World → World → Prop
  | content (w : World) : Reading p w (go (loadContent p) w).2
  | pieces (w : World) (size : Int) : Reading p w (go (contentPieces p size) w).2
  | entity (w : World) : Reading p w (go (openResponseEntity p) w).2
  | streams {w w' : World} (h : w.Drawn w') : Reading p w w'

/-- Whichever way the response is read, `c` is what comes. -/
structure Yields (w : World) (p : Ref Response) (c : Bytes) : Prop where
  content : (go (loadContent p) w).1 = .ok (.bytes c)
  pieces : ∀ size ≥ 1, ∃ bss : List Bytes,
    (go (contentPieces p size) w).1 = .ok (bss.map .bytes) ∧ bss.flatten = c
  entity : ∃ r w', go (openResponseEntity p) w = (.ok r, w') ∧ w'.Serves largestSize r c ∧
    (go (readStream r (-1)) w').1 = .ok (.bytes c)

/-- The same holds after any readings. -/
def YieldsAlways (w : World) (p : Ref Response) (c : Bytes) : Prop :=
  ∀ w', Relation.ReflTransGen (Reading p) w w' → w'.Yields p c

end World

namespace Act

open World

variable {w : World} {p : Ref Response} {m : Ref Message} {h : Headers} {c : Bytes}

/-! ## The three readings -/

theorem go_loadContent_of_loaded (loaded : w.Loaded p c) :
    go (loadContent p) w = (.ok (.bytes c), { w with
      responses := w.responses.set p
        { w.responses.get p with content := .held (.bytes c), consumed := true } }) := by
  rw [loadContent, go_bind, go_view]
  dsimp only
  rw [loaded.content]
  rfl

theorem go_contentPieces_of_loaded (loaded : w.Loaded p c) (size : Int) :
    go (contentPieces p size) w = (.ok ((slices size.toNat c).map .bytes), w) := by
  rw [contentPieces, go_bind, go_view]
  dsimp only
  rw [if_pos loaded.consumed, loaded.content]
  rfl

/-- The entity of a response is made anew each time. -/
theorem go_messageEntity_response (message : w.messages.get m = .response (some p))
    (headers : (w.responses.get p).headers = some h) :
    go (messageEntity m) w = (.ok (some w.entities.next), { w with
      entities := (w.entities.alloc (.responseBody p (h.lookup typeHeader)
        (h.lookup encodingHeader))).2 }) := by
  rw [messageEntity, go_bind, go_view, message]
  show go (responseEntity p) w = _
  rw [responseEntity, go_bind, go_view]
  dsimp only
  rw [headers]
  rfl

/-- A response without headers has no entity. -/
theorem go_messageEntity_headless (message : w.messages.get m = .response (some p))
    (headers : (w.responses.get p).headers = none) :
    go (messageEntity m) w = (.error (.noMember "NoneType" "get"), w) := by
  rw [messageEntity, go_bind, go_view, message]
  show go (responseEntity p) w = _
  rw [responseEntity, go_bind, go_view]
  dsimp only
  rw [headers]
  rfl

theorem go_openResponse_of_held (content : (w.responses.get p).content = .held (.bytes c)) :
    go (openResponse p) w = go (openSource (.ofBytes c)) w := by
  rw [openResponse, go_bind, go_view]
  dsimp only
  rw [content]
  cases c with
  | nil => rfl
  | cons b bs => rfl

/-- What opening the entity of a loaded response comes to: a new stream over the content. -/
theorem go_openResponseEntity_of_loaded (loaded : w.Loaded p c) :
    ∃ w', go (openResponseEntity p) w = go (openSource (.ofBytes c)) w' ∧
      w'.responses = w.responses := by
  obtain ⟨h, headers⟩ := loaded.headers
  set w₁ : World := { w with messages := (w.messages.alloc (.response (some p))).2 } with hw₁
  have made : go (newMessage (.response (some p))) w = (.ok w.messages.next, w₁) := rfl
  have message : w₁.messages.get w.messages.next = .response (some p) := Store.get_alloc_same _ _
  have entity := go_messageEntity_response (w := w₁) message headers
  refine ⟨(go (messageEntity w.messages.next) w₁).2, ?_, by rw [entity]⟩
  rw [openResponseEntity, go_bind_of_ok made, go_bind_of_ok entity, entity]
  rw [go_openContent_responseBody (Store.get_alloc_same _ _)]
  exact go_openResponse_of_held loaded.content

end Act

namespace World

open Act

variable {w w' : World} {p : Ref Response} {c : Bytes}

/-! ## The invariant -/

theorem Loaded.of_responses (loaded : w.Loaded p c) (same : w'.responses = w.responses) :
    w'.Loaded p c := by
  obtain ⟨content, consumed, headers⟩ := loaded
  rw [← same] at content consumed headers
  exact ⟨content, consumed, headers⟩

/-- A loaded response stays loaded when it is read. -/
theorem Loaded.reading (loaded : w.Loaded p c) (step : Reading p w w') : w'.Loaded p c := by
  cases step with
  | content =>
    rw [go_loadContent_of_loaded loaded]
    obtain ⟨h, headers⟩ := loaded.headers
    refine ⟨?_, ?_, h, ?_⟩ <;> rw [Store.get_set_same]
    exact headers
  | pieces size =>
    rw [go_contentPieces_of_loaded loaded]
    exact loaded
  | entity =>
    obtain ⟨w₁, opened, same⟩ := go_openResponseEntity_of_loaded loaded
    rw [opened]
    exact loaded.of_responses same
  | streams drawn =>
    have marked := drawn.responses p
    obtain ⟨h, headers⟩ := loaded.headers
    exact ⟨marked.content.trans loaded.content, marked.stays loaded.consumed, h,
      marked.headers.trans headers⟩

theorem Loaded.later (loaded : w.Loaded p c) (readings : Relation.ReflTransGen (Reading p) w w') :
    w'.Loaded p c := by
  induction readings with
  | refl => exact loaded
  | tail _ step ih => exact ih.reading step

/-- Each reading of a loaded response gives its content. -/
theorem Loaded.yields (loaded : w.Loaded p c) : w.Yields p c where
  content := by rw [go_loadContent_of_loaded loaded]
  pieces size _ := by
    refine ⟨slices size.toNat c, ?_, flatten_slices _ _⟩
    rw [go_contentPieces_of_loaded loaded]
  entity := by
    obtain ⟨w₁, opened, -⟩ := go_openResponseEntity_of_loaded loaded
    refine ⟨_, _, opened.trans (go_openSource _ w₁), ?_, ?_⟩
    · exact serves_openSource w₁ (Source.delivers_ofBytes c) (Source.closesCleanly_ofBytes c)
    · rw [go_readStream]
      exact of_openSource (P := fun reader s => (reader.read (-1) s).1 = .ok (.bytes c)) w₁
        (Source.read_all_ofBytes c)

theorem Loaded.yieldsAlways (loaded : w.Loaded p c) : w.YieldsAlways p c :=
  fun _ readings => (loaded.later readings).yields

end World
end HttpTap
