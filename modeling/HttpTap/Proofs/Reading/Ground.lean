import HttpTap.Proofs.Reading.Chunks

/-!
# What the plain streams deliver

The ground floor of every tower is one of three streams.

* Bytes in memory deliver themselves (`Memory.delivers`).
* A stand-in with a byte string obeys, whatever the most that it gives at once, and delivers the
  byte string if it does not fail at the end of it (`StandIn.obeys`, `StandIn.delivers`).
* A stream over the items of an iterator is a stream over chunks.
-/

namespace HttpTap

/-! ## Bytes in memory -/

namespace Memory

theorem share_le (size : Int) (n : Nat) : share size n ≤ n := by
  unfold share
  split <;> omega

theorem share_pos {size : Int} (asks : size ≠ 0) {n : Nat} (left : 0 < n) : 0 < share size n := by
  unfold share
  split <;> omega

theorem read_of_size {size : Int} (word : isSize size = true) (m : Memory) :
    reader.read size m = take size m := by
  show read size m = _
  rw [read, if_pos word]

theorem take_open (bs : Bytes) (size : Int) :
    take size ⟨bs, false⟩ = (.ok (.bytes (bs.take (share size bs.length))),
      ⟨bs.drop (share size bs.length), false⟩) := rfl

theorem read_open {bs : Bytes} {size : Int} (asked : 0 < size ∧ size ≤ largestSize) :
    reader.read size ⟨bs, false⟩ =
      (.ok (.bytes (bs.take size.toNat)), ⟨bs.drop size.toNat, false⟩) := by
  have share : Memory.share size bs.length = min size.toNat bs.length := by
    rw [Memory.share, if_neg (by omega)]
  rw [read_of_size (isSize_of_pos asked.1 asked.2), take_open, share, ← List.take_eq_take_min,
    ← List.drop_eq_drop_min]

/-- Bytes in memory are delivered from the first to the last. -/
theorem delivers (bs : Bytes) : reader.Delivers largestSize ⟨bs, false⟩ bs := by
  generalize hn : bs.length = n
  induction n using Nat.strongRecOn generalizing bs with
  | ind n ih =>
    subst hn
    by_cases none : bs = []
    · subst none
      exact .ended fun size asked => ⟨.bytes [], by rw [read_open asked, List.take_nil], rfl⟩
    · have len : 0 < bs.length := List.length_pos_iff.2 none
      refine .more (fun size asked => ⟨bs.take size.toNat, by rw [read_open asked], ?_,
        List.take_prefix _ _⟩) fun size asked cs given => ?_
      · intro h
        rcases List.take_eq_nil_iff.1 h with h0 | h0
        · omega
        · exact none h0
      · rw [read_open asked] at given ⊢
        simp only [Except.ok.injEq, Value.bytes.injEq] at given
        subst given
        have left : bs.drop (bs.take size.toNat).length = bs.drop size.toNat := by
          rw [List.length_take, ← List.drop_eq_drop_min]
        rw [left]
        refine ih _ ?_ _ rfl
        rw [List.length_drop]
        omega

theorem closesCleanly (m : Memory) : reader.ClosesCleanly m :=
  fun _ _ => rfl

/-- One read of everything. -/
theorem read_all (bs : Bytes) : reader.read (-1) ⟨bs, false⟩ = (.ok (.bytes bs), ⟨[], false⟩) := by
  have share : share (-1) bs.length = bs.length := rfl
  rw [read_of_size (by decide), take_open, share, List.take_length, List.drop_length]

end Memory

/-! ## Stand-ins -/

namespace Script

theorem portion_le (size : Int) (most : Option Int) (n : Nat) : portion size most n ≤ n := by
  unfold portion
  cases most with
  | none => exact Memory.share_le size n
  | some k => exact Nat.le_trans (Nat.min_le_left _ _) (Memory.share_le size n)

theorem portion_le_size {size : Int} (pos : 0 < size) (most : Option Int) (n : Nat) :
    (portion size most n : Int) ≤ size := by
  have share : Memory.share size n ≤ size.toNat := by
    rw [Memory.share, if_neg (by omega)]
    exact Nat.min_le_left _ _
  have within : portion size most n ≤ Memory.share size n := by
    unfold portion
    cases most with
    | none => exact Nat.le_refl _
    | some k => exact Nat.min_le_left _ _
  omega

/-- Something is given as long as something is there, is asked for and may be given. -/
theorem portion_pos {size : Int} (asks : size ≠ 0) {most : Option Int} (willing : most ≠ some 0)
    {n : Nat} (left : 0 < n) : 0 < portion size most n := by
  have wanted : 0 < Memory.share size n := Memory.share_pos asks left
  unfold portion
  cases most with
  | none => exact wanted
  | some k =>
    have other : k ≠ 0 := fun h => willing (congrArg Option.some h)
    exact Nat.lt_min.2 ⟨wanted, Memory.share_pos other left⟩

end Script

namespace StandIn

/-- A read of a byte string, unless it meets the fault at the end. -/
theorem read_left {d : StandIn} (isOpen : d.closed = false) {bs : Bytes} {most : Option Int}
    {atEnd : Option Fault} (script : d.script = .data bs most atEnd) (left : bs ≠ [] ∨ atEnd = none)
    (size : Int) :
    ∃ calls, reader.read size d =
      (.ok (.bytes (bs.take (Script.portion size most bs.length))),
        { d with
          script := .data (bs.drop (Script.portion size most bs.length)) most atEnd
          calls := calls }) := by
  have answer : d.script.read size =
      (.ok (.bytes (bs.take (Script.portion size most bs.length))),
        .data (bs.drop (Script.portion size most bs.length)) most atEnd) := by
    rw [script]
    show Script.readData size bs most atEnd = _
    unfold Script.readData
    rcases left with some | rfl
    · have filled : bs.isEmpty = false := List.isEmpty_eq_false_iff.2 some
      rw [filled, Bool.false_and]
      cases atEnd <;> rfl
    · rfl
  refine ⟨(read size d).2.calls, ?_⟩
  show read size d = _
  unfold read
  rw [if_neg (by rw [isOpen]; exact Bool.false_ne_true), answer]

/-- A stand-in with a byte string obeys, and so does one that fails at the end of it. -/
theorem obeys {d : StandIn} (isOpen : d.closed = false) {bs : Bytes} {most : Option Int}
    {atEnd : Option Fault} (script : d.script = .data bs most atEnd) (willing : most ≠ some 0)
    (largest : Int) : reader.Obeys largest d bs atEnd := by
  generalize hn : bs.length = n
  induction n using Nat.strongRecOn generalizing d bs with
  | ind n ih =>
    subst hn
    by_cases empty : bs = []
    · subst empty
      cases atEnd with
      | none =>
        refine .ended fun size asked => ⟨.bytes [], ?_, rfl⟩
        obtain ⟨calls, answer⟩ := read_left isOpen script (.inr rfl) size
        rw [answer, List.take_nil]
      | some f =>
        refine .broken fun size asked => ?_
        have asks : (size != 0) = true := bne_iff_ne.2 (by omega)
        have meets : d.script.read size = (.error f, .data [] most (some f)) := by
          rw [script]
          show Script.readData size [] most (some f) = _
          unfold Script.readData
          rw [asks]
          rfl
        show (read size d).1 = _
        unfold read
        rw [if_neg (by rw [isOpen]; exact Bool.false_ne_true), meets]
    · have len : 0 < bs.length := List.length_pos_iff.2 empty
      refine .more (fun size asked => ?_) fun size asked cs given => ?_
      · obtain ⟨calls, answer⟩ := read_left isOpen script (.inl empty) size
        have gives := Script.portion_pos (Int.ne_of_gt asked.1) willing len
        have few := Script.portion_le_size asked.1 most bs.length
        refine ⟨_, by rw [answer], fun none => ?_, ?_, List.take_prefix _ _⟩
        · rcases List.take_eq_nil_iff.1 none with h0 | h0
          · omega
          · exact empty h0
        · rw [List.length_take]
          omega
      · obtain ⟨calls, answer⟩ := read_left isOpen script (.inl empty) size
        have gives := Script.portion_pos (Int.ne_of_gt asked.1) willing len
        have within := Script.portion_le size most bs.length
        rw [answer] at given ⊢
        simp only [Except.ok.injEq, Value.bytes.injEq] at given
        have count : cs.length = Script.portion size most bs.length := by
          rw [← given, List.length_take]
          omega
        rw [count]
        refine ih _ ?_ (d := { d with script := .data _ most atEnd, calls := calls }) isOpen rfl rfl
        rw [List.length_drop]
        omega

/-- A stand-in that does not fail delivers its byte string. -/
theorem delivers {d : StandIn} (isOpen : d.closed = false) {bs : Bytes} {most : Option Int}
    (script : d.script = .data bs most none) (willing : most ≠ some 0) (largest : Int) :
    reader.Delivers largest d bs :=
  (obeys isOpen script willing largest).delivers

/-- A stand-in that is not told to fail closes cleanly. -/
theorem closesCleanly {d : StandIn} (closable : d.closable = true)
    (willing : d.closeFault = none) : reader.ClosesCleanly d := by
  intro d' reads
  obtain ⟨closable', willing'⟩ : d'.closable = true ∧ d'.closeFault = none := by
    induction reads with
    | refl => exact ⟨closable, willing⟩
    | @tail d₁ d₂ _ step ih =>
      obtain ⟨size, rfl⟩ := step
      show (read size d₁).2.closable = true ∧ (read size d₁).2.closeFault = none
      unfold read
      split <;> exact ih
  show (close d').1 = .ok ()
  rw [close, if_pos closable']
  simp only [willing']

end StandIn

/-! ## Ground floors -/

namespace Ground

theorem embeds_memory : Memory.reader.Embeds Ground.reader memory :=
  ⟨fun _ _ => rfl, fun _ => rfl⟩

theorem embeds_standIn : StandIn.reader.Embeds Ground.reader standIn :=
  ⟨fun _ _ => rfl, fun _ => rfl⟩

theorem embeds_items : (Chunked.reader .items).Embeds Ground.reader items :=
  ⟨fun _ _ => rfl, fun _ => rfl⟩

end Ground

namespace Source

/-- A stream on its own over bytes delivers them. -/
theorem delivers_ofBytes (bs : Bytes) :
    (Tower.reader (ofBytes bs).floors).Delivers largestSize (ofBytes bs).state bs :=
  (Memory.delivers bs).embed Ground.embeds_memory

theorem read_all_ofBytes (bs : Bytes) :
    ((Tower.reader (ofBytes bs).floors).read (-1) (ofBytes bs).state).1 = .ok (.bytes bs) := by
  show (Ground.reader.read (-1) (.memory ⟨bs, false⟩)).1 = _
  rw [Ground.embeds_memory.read, Memory.read_all]

theorem closesCleanly_ofBytes (bs : Bytes) :
    (Tower.reader (ofBytes bs).floors).ClosesCleanly (ofBytes bs).state :=
  (Memory.closesCleanly _).embed Ground.embeds_memory

/-- A stream on its own over items delivers what they spell. -/
theorem delivers_ofItems {is : List Item} {c : Bytes} (h : Feed.items.Supplies is c) :
    (Tower.reader (ofItems is).floors).Delivers Value.maxCount (ofItems is).state c :=
  (Chunked.delivers (x := Chunked.ofFeed is) h).embed Ground.embeds_items

theorem closesCleanly_ofItems (is : List Item) :
    (Tower.reader (ofItems is).floors).ClosesCleanly (ofItems is).state :=
  (Chunked.closesCleanly .items _).embed Ground.embeds_items

end Source
end HttpTap
