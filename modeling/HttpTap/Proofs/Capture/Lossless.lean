import HttpTap.Proofs.Capture.Emptied
import HttpTap.Proofs.Entity.Readers

/-!
# Nothing is lost by buffering

An entity that opens once is exchanged for one that opens as often as one likes.  That is worth
something only if nobody can tell the difference: the new entity must have the same bytes, the same
type and the same encoding (`makeRepeatable_lossless`), and several readers must not get in each
other's way (`World.Buffers.readings`).

The old entity is asked for its type and its encoding after it was read.  By then it has been asked
for its flag and it has been opened, and a stand-in moves on in its script at each of these.  But a
member moves on only when it is read itself, so what the old entity says at last is what it would
have said at first (`descriptions_repeatable`, `descriptions_openContent`).
-/

namespace HttpTap

/-- What reading the type and the encoding of an entity gives. -/
def Entity.descriptions : Entity → Item × Item
  | .scripted s => (s.type.next.1, s.encoding.next.1)
  | x => (.ok x.type, .ok x.encoding)

namespace World

open Act

/-- The entity says that it opens once, it opens as a stream that serves `c` to reads of at most
`most` bytes, and its type and its encoding can be read. -/
structure Bufferable (w : World) (most : Int) (e : Ref Entity) (c : Bytes) (type encoding : Value) :
    Prop where
  once : ∃ flag, (go (repeatable e) w).1 = .ok flag ∧ flag.truthy = false
  opens : ∃ r w', go (openContent e) (go (repeatable e) w).2 = (.ok r, w') ∧
    w'.Serves most r c
  type : (go (contentType e) w).1 = .ok type
  encoding : (go (contentEncoding e) w).1 = .ok encoding

/-- The entity holds `c` in memory and says so, it is left alone when it is to be buffered, and
however many readers take turns, each of them has all of `c`. -/
structure Buffers (w : World) (e : Ref Entity) (c : Bytes) (type encoding : Value) : Prop where
  holds : w.entities.get e = .ofBytes c type encoding
  kind : (w.entities.get e).kindName = "ByteArrayEntity"
  length : go (contentLength e) w = (.ok (.int c.length), w)
  type : go (contentType e) w = (.ok type, w)
  encoding : go (contentEncoding e) w = (.ok encoding, w)
  again : ∀ chunk, go (makeRepeatable e chunk) w = (.ok ⟨e, 0, false⟩, w)
  readings : ∀ turns, ∃ log w', go (serve e [] turns) w = (.ok log, w') ∧ ∀ i,
    answersOf i log = Memory.reader.replies (Memory.ofBytes c) (usesOf i log) ∧
    ∀ sizes : List Int, (∀ size ∈ sizes, size ≠ 0 ∧ isSize size = true) →
      usesOf i log = sizes.map .read → Spells c sizes (answersOf i log)

variable {w w' : World} {e : Ref Entity} {c : Bytes} {type encoding : Value}

theorem buffers_of_stored (hx : w.entities.get e = .stored false c type encoding) :
    w.Buffers e c type encoding where
  holds := hx
  kind := by
    rw [hx]
    rfl
  length := go_contentLength hx rfl
  type := go_contentType hx rfl
  encoding := go_contentEncoding hx rfl
  again := by
    intro chunk
    have flagged : go (repeatable e) w = (.ok (.bool true), w) := go_repeatable hx rfl
    rw [makeRepeatable, go_bind_of_ok flagged]
    rfl
  readings := by
    intro turns
    obtain ⟨log, w', served, -, answers⟩ := go_serve hx (attended_nil w) turns
    refine ⟨log, w', served, fun i => ⟨answers i, fun sizes some same => ?_⟩⟩
    rw [answers i, same]
    exact Memory.spells_replies c sizes some

end World

namespace Act

open World

variable {w w' : World} {e : Ref Entity} {c : Bytes} {type encoding : Value} {chunk : Int}

/-! ## Descriptions -/

theorem fst_go_contentType (e : Ref Entity) (w : World) :
    (go (contentType e) w).1 = (w.entities.get e).descriptions.1 := by
  cases hx : w.entities.get e with
  | scripted s =>
    rw [contentType, go_bind, go_entity, hx]
    rfl
  | _ =>
    rw [go_contentType hx rfl]
    rfl

theorem fst_go_contentEncoding (e : Ref Entity) (w : World) :
    (go (contentEncoding e) w).1 = (w.entities.get e).descriptions.2 := by
  cases hx : w.entities.get e with
  | scripted s =>
    rw [contentEncoding, go_bind, go_entity, hx]
    rfl
  | _ =>
    rw [go_contentEncoding hx rfl]
    rfl

/-- Reading the flag leaves the descriptions. -/
theorem descriptions_repeatable (e : Ref Entity) (w : World) :
    ((go (repeatable e) w).2.entities.get e).descriptions =
      (w.entities.get e).descriptions := by
  cases hx : w.entities.get e with
  | scripted s =>
    have moved : (go (repeatable e) w).2.entities.get e =
        .scripted { s with repeatable := s.repeatable.next.2 } := by
      rw [repeatable, go_bind, go_entity, hx]
      exact Store.get_set_same _ _ _
    rw [moved]
    rfl
  | _ => rw [go_repeatable hx rfl, hx]

/-- Opening leaves the descriptions. -/
theorem descriptions_openContent (e : Ref Entity) (w : World) :
    ((go (openContent e) w).2.entities.get e).descriptions =
      (w.entities.get e).descriptions := by
  cases hx : w.entities.get e with
  | scripted s => rw [get_openContent_scripted hx]; rfl
  | _ => rw [get_openContent hx rfl]; rfl

/-- Reading the type leaves the encoding. -/
theorem encoding_contentType (e : Ref Entity) (w : World) :
    ((go (contentType e) w).2.entities.get e).descriptions.2 =
      (w.entities.get e).descriptions.2 := by
  cases hx : w.entities.get e with
  | scripted s =>
    have moved : (go (contentType e) w).2.entities.get e =
        .scripted { s with type := s.type.next.2 } := by
      rw [contentType, go_bind, go_entity, hx]
      exact Store.get_set_same _ _ _
    rw [moved]
    rfl
  | _ => rw [go_contentType hx rfl, hx]

theorem go_describe (h : (w.entities.get e).descriptions = (.ok type, .ok encoding)) :
    ∃ w', go (describe e) w = (.ok (type, encoding), w') := by
  have typed : go (contentType e) w = (.ok type, (go (contentType e) w).2) := by
    refine Prod.ext ?_ rfl
    rw [fst_go_contentType, h]
  have encoded : (go (contentEncoding e) (go (contentType e) w).2).1 = .ok encoding := by
    rw [fst_go_contentEncoding, encoding_contentType, h]
  rw [describe, go_bind_of_ok typed]
  exact ⟨_, go_bind_of_ok (Prod.ext encoded rfl) _⟩

theorem keeps_describe (e : Ref Entity) : Keeps Consulted (describe e) :=
  (keeps_contentType e).bind fun _ => (keeps_contentEncoding e).bind fun _ => keeps_pure _

/-! ## Buffering -/

/-- An entity that opens once is replaced by one in memory that has the same bytes and the same
descriptions, whatever the size of the reads and whatever the pieces that the stream comes in.
However many readers there are, each of them has all the bytes, and the new entity is not replaced
again. -/
theorem makeRepeatable_lossless (h : w.Bufferable chunk e c type encoding) (step : 0 < chunk) :
    ∃ e' w', go (makeRepeatable e chunk) w = (.ok ⟨e', c.length, true⟩, w') ∧
      ¬ w.entities.Has e' ∧ w'.Buffers e' c type encoding := by
  obtain ⟨flag, first, falsy⟩ := h.once
  have flagged : go (repeatable e) w = (.ok flag, (go (repeatable e) w).2) := Prod.ext first rfl
  obtain ⟨r, w₂, opened, serves⟩ := h.opens
  obtain ⟨w₃, buffered, drawn⟩ := exists_bufferContent_drawn opened serves step
  have same : (w₃.entities.get e).descriptions = (.ok type, .ok encoding) := by
    have here := descriptions_openContent e (go (repeatable e) w).2
    rw [opened, descriptions_repeatable] at here
    rw [drawn.entities, here]
    exact Prod.ext ((fst_go_contentType e w).symm.trans h.type)
      ((fst_go_contentEncoding e w).symm.trans h.encoding)
  obtain ⟨w₄, described⟩ := go_describe same
  have asked : w.Consulted (go (repeatable e) w).2 := keeps_repeatable e w
  have looked : (go (repeatable e) w).2.Consulted w₂ := (keeps_openContent e).of_go opened
  have told : w₃.Consulted w₄ := (keeps_describe e).of_go described
  have consulted : w.Consulted w₄ :=
    (asked.trans looked).trans (drawn.consulted.trans told)
  have replacing := go_makeRepeatable_of_data flagged falsy buffered
  rw [replaceEntity_eq, go_bind_of_ok described] at replacing
  refine ⟨w₄.entities.next, _, replacing, fun has => ?_, buffers_of_stored ?_⟩
  · exact Store.not_has_next _ (Nat.lt_of_lt_of_le has consulted.entities_le)
  · exact Store.get_alloc_same _ _

/-- A read-once entity of three bytes that come in pieces of two at most. -/
def inPairs : World :=
  let source : Source := .ofStandIn ⟨"s", .data [97, 98, 99] (some 2) none, false, none, true, []⟩
  { World.empty with
    sources := (Store.empty.alloc source).2
    streams := (Store.empty.alloc (.direct ⟨0⟩)).2
    entities := (Store.empty.alloc (.once ⟨0⟩ false (.int (-1)) (.text "a/b") .null)).2 }

/-- They are all there, also if only one byte is asked for at a time. -/
theorem makeRepeatable_lossless_inPairs :
    ∃ e' w', go (makeRepeatable ⟨0⟩ 1) inPairs = (.ok ⟨e', 3, true⟩, w') ∧ e' ≠ ⟨0⟩ ∧
      w'.Buffers e' [97, 98, 99] (.text "a/b") .null := by
  have hx : inPairs.entities.get ⟨0⟩ = .once ⟨0⟩ false (.int (-1)) (.text "a/b") .null := rfl
  have serves : inPairs.Serves 1 ⟨0⟩ [97, 98, 99] :=
    ⟨(StandIn.delivers rfl rfl (by decide) 1).embed Ground.embeds_standIn,
      (StandIn.closesCleanly rfl rfl).embed Ground.embeds_standIn⟩
  have bufferable : inPairs.Bufferable 1 ⟨0⟩ [97, 98, 99] (.text "a/b") .null := by
    refine ⟨⟨.bool false, rfl, rfl⟩, ⟨⟨0⟩, _, go_openContent_once hx, ?_⟩, rfl, rfl⟩
    exact serves.of_same rfl rfl rfl fun _ => rfl
  obtain ⟨e', w', made, new, buffers⟩ :=
    makeRepeatable_lossless bufferable (show (0 : Int) < 1 by decide)
  refine ⟨e', w', made, fun same => new ?_, buffers⟩
  rw [same]
  exact Nat.zero_lt_one

end Act
end HttpTap
