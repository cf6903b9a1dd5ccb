import HttpTap.Proofs.Entity.Offers

/-!
# Buffering and preparing an entity

An entity that offers `c` and can be opened only once is replaced by a copy.  The copy is a new
entity which holds `c` in memory (`World.NewCopy`), whatever the size of the reads and whatever the
pieces in which the stream came (`go_makeRepeatable`).

Preparing an entity for capture ends in one of three ways, and the length it declares and its flag
say in which: nothing at all if it declares to be empty, the entity itself if it can be opened
again, else a copy.
-/

namespace HttpTap

/-- The entity `e` is new and holds `c` in memory. -/
structure World.NewCopy (w w' : World) (e : Ref Entity) (c : Bytes) : Prop where
  new : ¬ w.entities.Has e
  holds : ∃ type encoding, w'.entities.get e = .stored false c type encoding

namespace World

variable {w w' w'' : World} {e : Ref Entity} {c : Bytes}

instance (e : Ref Entity) : IsPreorder World (Uses e) where
  refl _ := .refl
  trans _ _ _ := .trans

/-- A copy stays one while it is used. -/
theorem NewCopy.later (h : w.NewCopy w' e c) (uses : Uses e w' w'') : w.NewCopy w'' e c := by
  obtain ⟨type, encoding, held⟩ := h.holds
  refine ⟨h.new, type, encoding, ?_⟩
  rcases get_of_uses held rfl uses with same | same <;> exact same

/-- A copy offers what it holds to a bounded reading. -/
theorem NewCopy.offers (h : w.NewCopy w' e c) : w'.Offers readChunkSize e true c := by
  obtain ⟨type, encoding, held⟩ := h.holds
  exact (offers_stored held).mono (by decide)

/-- What was not there before some earlier moment was not there at that moment either. -/
theorem NewCopy.earlier (h : w'.NewCopy w'' e c) (le : w.entities.size ≤ w'.entities.size) :
    w.NewCopy w'' e c :=
  ⟨fun has => h.new (Nat.lt_of_lt_of_le has le), h.holds⟩

end World

namespace Act

open World

variable {w w' : World} {e : Ref Entity} {r : Ref Stream} {c : Bytes}
  {limit chunk : Int}

/-! ## Buffering -/

theorem uses_openContent (e : Ref Entity) : Keeps (Uses e) (openContent e) :=
  fun w => .single (.opening w)

/-- A stream of `c` is read to its end and closed, and nothing else happens. -/
theorem exists_bufferContent_drawn (opened : go (openContent e) w = (.ok r, w'))
    (h : w'.Serves chunk r c) (pos : 0 < chunk) :
    ∃ w'', go (bufferContent e chunk) w = (.ok (c, none), w'') ∧ w'.Drawn w'' := by
  obtain ⟨w₁, w₂, drained, closed, drawn⟩ := go_drain_close h pos
  refine ⟨w₂, ?_, drawn⟩
  rw [bufferContent, go_bind, go_observe, opened]
  dsimp only
  rw [go_bind_of_ok drained]
  rw [go_bind, go_observe, closed]
  rfl

theorem go_bufferContent (opened : go (openContent e) w = (.ok r, w')) (h : w'.Serves chunk r c)
    (pos : 0 < chunk) :
    ∃ w'', go (bufferContent e chunk) w = (.ok (c, none), w'') ∧ Uses e w w'' := by
  obtain ⟨w'', buffered, drawn⟩ := exists_bufferContent_drawn opened h pos
  have first : Uses e w w' := (uses_openContent e).of_go opened
  exact ⟨w'', buffered, .tail first (.reading drawn)⟩

/-- Replacing an entity makes a new one that holds the given bytes. -/
theorem go_replaceEntity {rep : Bool} (h : w.Steady e rep) (data : Bytes) :
    ∃ e' w', go (replaceEntity e data) w = (.ok ⟨e', data.length, true⟩, w') ∧
      w.NewCopy w' e' data := by
  obtain ⟨type, w₁, typed, look₁⟩ := h.go_contentType
  obtain ⟨encoding, w₂, encoded, look₂⟩ := (h.later look₁.uses).go_contentEncoding
  have le : w.entities.size ≤ w₂.entities.size :=
    (look₁.uses.consulted.trans look₂.uses.consulted).entities_le
  have replaced : go (replaceEntity e data) w = go (do
      let replacement ← newEntity (.ofBytes data type encoding)
      say (.detail repeatableChannel
        ("Buffered non-repeatable entity (" ++ toString data.length ++ " bytes)"))
      return ⟨replacement, data.length, true⟩) w₂ := by
    rw [replaceEntity, go_bind_of_ok typed, go_bind_of_ok encoded]
  refine ⟨w₂.entities.next, _, replaced, ⟨fun has => ?_, type, encoding, ?_⟩⟩
  · exact Store.not_has_next _ (Nat.lt_of_lt_of_le has le)
  · exact Store.get_alloc_same _ _

/-- An entity that was read to its end without a fault is replaced. -/
theorem go_makeRepeatable_of_data {flag : Value} {w₁ : World} {data : Bytes}
    (flagged : go (repeatable e) w = (.ok flag, w₁)) (falsy : flag.truthy = false)
    (buffered : go (bufferContent e chunk) w₁ = (.ok (data, none), w')) :
    go (makeRepeatable e chunk) w = go (replaceEntity e data) w' := by
  rw [makeRepeatable, go_bind_of_ok flagged]
  rw [if_neg (by rw [falsy]; exact Bool.false_ne_true), go_bind_of_ok buffered]

/-- An entity that failed while it was read is kept, in the state in which the fault left it. -/
theorem go_makeRepeatable_of_fault {flag : Value} {w₁ : World} {data : Bytes} {f : Fault}
    (flagged : go (repeatable e) w = (.ok flag, w₁)) (falsy : flag.truthy = false)
    (buffered : go (bufferContent e chunk) w₁ = (.ok (data, some f), w'))
    (contained : f.interrupts = false) :
    go (makeRepeatable e chunk) w = (.ok ⟨e, 0, false⟩, w'.say (.contained repeatableChannel
      ("Failed to make entity repeatable after " ++ toString data.length ++
        " bytes, keeping original") f)) := by
  rw [makeRepeatable, go_bind_of_ok flagged]
  rw [if_neg (by rw [falsy]; exact Bool.false_ne_true), go_bind_of_ok buffered]
  dsimp only
  rw [contained, if_neg Bool.false_ne_true]
  rfl

/-- A read-once entity that offers `c` is replaced by a copy that holds `c`. -/
theorem go_makeRepeatable (h : w.Offers chunk e false c) (pos : 0 < chunk) :
    ∃ e' w', go (makeRepeatable e chunk) w = (.ok ⟨e', c.length, true⟩, w') ∧
      w.NewCopy w' e' c := by
  obtain ⟨flag, w₁, first, falsy, look⟩ := h.toSteady.go_repeatable
  obtain ⟨r, w₂, opened, serves⟩ := h.opens w₁ (.single look)
  obtain ⟨w₃, buffered, uses⟩ := go_bufferContent opened serves pos
  have all : Uses e w w₃ := look.uses.trans uses
  obtain ⟨e', w', replaced, copy⟩ := go_replaceEntity (h.toSteady.later all) c
  refine ⟨e', w', ?_, copy.earlier all.consulted.entities_le⟩
  rw [go_makeRepeatable_of_data first falsy buffered]
  exact replaced

/-! ## Preparing -/

section Prepare

variable {declared : Value} {w₁ : World}

/-- An entity that declares to be empty is not looked at any further. -/
theorem go_prepareEntity_of_zero (length : go (contentLength e) w = (.ok declared, w₁))
    (zero : declared.equalsInt 0 = true) :
    go (prepareEntity e chunk) w = (.ok none, w₁) := by
  rw [prepareEntity, go_bind_of_ok length, if_pos zero]
  rfl

theorem go_prepareEntity_of_repeatable (chunk : Int)
    (length : go (contentLength e) w = (.ok declared, w₁))
    (filled : declared.equalsInt 0 = false) (h : w₁.Steady e true) :
    ∃ w', go (prepareEntity e chunk) w = (.ok (some ⟨e, declared, none, false⟩), w') ∧
      Looks e w₁ w' := by
  obtain ⟨flag, w₂, first, truthy, look⟩ := h.go_repeatable
  refine ⟨w₂, ?_, .single look⟩
  rw [prepareEntity, go_bind_of_ok length]
  rw [if_neg (by rw [filled]; exact Bool.false_ne_true), go_bind_of_ok first]
  rw [if_pos truthy]
  rfl

/-- An entity that can be read once is buffered. -/
theorem go_prepareEntity_of_falsy {flag : Value} {w₂ : World} (chunk : Int)
    (length : go (contentLength e) w = (.ok declared, w₁))
    (filled : declared.equalsInt 0 = false) (flagged : go (repeatable e) w₁ = (.ok flag, w₂))
    (falsy : flag.truthy = false) :
    go (prepareEntity e chunk) w = go (do
      let result ← makeRepeatable e chunk
      return some ⟨result.entity, declared, if result.replaced then some result.bytesRead else none,
        result.replaced⟩) w₂ := by
  rw [prepareEntity, go_bind_of_ok length]
  rw [if_neg (by rw [filled]; exact Bool.false_ne_true), go_bind_of_ok flagged]
  rw [if_neg (by rw [falsy]; exact Bool.false_ne_true)]

theorem go_prepareEntity_of_once (length : go (contentLength e) w = (.ok declared, w₁))
    (filled : declared.equalsInt 0 = false) (h : w₁.Offers chunk e false c) (pos : 0 < chunk) :
    ∃ e' w', go (prepareEntity e chunk) w =
        (.ok (some ⟨e', declared, some c.length, true⟩), w') ∧ w₁.NewCopy w' e' c := by
  obtain ⟨flag, w₂, first, falsy, look⟩ := h.toSteady.go_repeatable
  obtain ⟨e', w', repeated, copy⟩ := go_makeRepeatable (h.later (.single look)) pos
  refine ⟨e', w', ?_, copy.earlier look.uses.consulted.entities_le⟩
  rw [go_prepareEntity_of_falsy chunk length filled first falsy, go_bind_of_ok repeated]
  rfl

end Prepare

/-! ## Reading -/

theorem uses_say (x : LogRecord) : Keeps (Uses e) (say x) :=
  keeps_change fun _ => .single (.reading ⟨rfl, rfl, rfl, rfl, rfl, rfl,
    fun _ => .refl _⟩)

/-- Reading a prepared entity uses that entity and nothing else. -/
theorem uses_readBody (limit : Int) (p : Prepared) : Keeps (Uses p.entity) (readBody limit p) := by
  have reads : ∀ r, Keeps (Uses p.entity) (readBounded r limit readChunkSize) :=
    fun r w => .single (.reading (drawn_putBack w r _))
  have closes : ∀ r, Keeps (Uses p.entity) (closeStream r) :=
    fun r w => .single (.reading (drawn_putBack w r _))
  have bounds : Keeps (Uses p.entity) (closing (openContent p.entity) fun r =>
      readBounded r limit readChunkSize) :=
    (uses_openContent p.entity).bind fun r => (reads r).ensuring (closes r)
  refine Keeps.attempt ?_ fun f => (uses_say _).bind fun _ => keeps_pure _
  exact bounds.bind fun _ => keeps_lift _

/-- A bounded reading of an entity that opens as a stream of `c`. -/
theorem go_closing_readBounded (opened : go (openContent e) w = (.ok r, w'))
    (h : w'.Serves readChunkSize r c) (pos : 0 < limit) :
    go (closing (openContent e) fun r => readBounded r limit readChunkSize) w =
      (.ok ⟨c.take limit.toNat, decide (limit.toNat < c.length)⟩,
        (go (ensuring (readBounded r limit readChunkSize) (closeStream r)) w').2) := by
  obtain ⟨w'', bounded, -⟩ := go_bounded_close h pos
  rw [closing, go_bind_of_ok opened, bounded]

/-- What is read from an entity that opens as a stream of `c`. -/
theorem go_readBody {p : Prepared} (opened : go (openContent p.entity) w = (.ok r, w'))
    (h : w'.Serves readChunkSize r c) (pos : 0 < limit) {body : Option CapturedBody}
    (made : capturedBody limit p.declared p.observed
      ⟨c.take limit.toNat, decide (limit.toNat < c.length)⟩ = .ok body) :
    go (readBody limit p) w =
      (.ok body, (go (ensuring (readBounded r limit readChunkSize) (closeStream r)) w').2) := by
  rw [readBody, go_attempt, go_bind, go_closing_readBounded opened h pos]
  dsimp only
  rw [go_lift, made]

end Act
end HttpTap
