import HttpTap.Proofs.Reading.Delivery
import HttpTap.Stream.Source
import Mathlib.Data.List.Forall2

/-!
# What a stream over chunks delivers

A stream over chunks hands out the bytes of one chunk at a time, keeps what was not asked for,
and skips empty chunks.  None of that loses or repeats a byte: it delivers the bytes of all its
chunks, one chunk after the other (`Chunked.delivers`).

`Feed.Supplies F s c` says what a supply has to give: chunks that spell `c`, then the end.  The
items of an iterator are such a supply (`supplies_items`), and so are the pieces of a stream that
delivers `c` (`supplies_of_delivers`).
-/

namespace HttpTap

variable {σ φ : Type}

/-- From the state `s` on the feed gives chunks that spell `c`, and then comes to its end. -/
inductive Feed.Supplies (F : Feed φ) : φ → Bytes → Prop
  | ended {s s' : φ} (stop : F.pull s = (.ok none, s')) : Supplies F s []
  | chunk {s s' : φ} {v : Value} {bs c : Bytes} (pull : F.pull s = (.ok (some v), s'))
    (spelled : v.toBytes = .ok bs) (later : Supplies F s' c) : Supplies F s (bs ++ c)

/-- The feed has come to its end and is left in the state `s`. -/
def Feed.Ends (F : Feed φ) (s : φ) : Prop := ∃ s₀, F.pull s₀ = (.ok none, s)

/-- Pulling some chunks leads from the one state to the other. -/
def Feed.Pulls (F : Feed φ) : φ → φ → Prop := Relation.ReflTransGen fun s s' => s' = (F.pull s).2

/-! ## The stream -/

namespace Chunked

variable {F : Feed φ} {c : Bytes}

theorem fill_of_pending {x : Chunked φ} (h : x.pending ≠ []) : fill F x = (.ok (), x) := by
  rw [fill, if_neg h]

section Pull

-- What filling does when nothing is pending, by what the feed answers.
variable {s s' : φ} {v : Value} {f : Fault}

theorem fill_of_fault (h : F.pull s = (.error f, s')) (closed : Bool) :
    fill F ⟨s, [], closed⟩ = (.error f, ⟨s', [], closed⟩) := by
  rw [fill, if_pos rfl]
  split
  · next g t hg => rw [h] at hg; simp_all
  · next t hg => rw [h] at hg; exact absurd hg (by simp)
  · next u t hg => rw [h] at hg; exact absurd hg (by simp)

theorem fill_of_end (h : F.pull s = (.ok none, s')) (closed : Bool) :
    fill F ⟨s, [], closed⟩ = (.ok (), ⟨s', [], closed⟩) := by
  rw [fill, if_pos rfl]
  split
  · next g t hg => rw [h] at hg; exact absurd hg (by simp)
  · next t hg => rw [h] at hg; simp_all
  · next u t hg => rw [h] at hg; exact absurd hg (by simp)

theorem fill_of_chunk (h : F.pull s = (.ok (some v), s')) (closed : Bool) :
    fill F ⟨s, [], closed⟩ = match v.toBytes with
      | .error f => (.error f, ⟨s', [], closed⟩)
      | .ok bs => fill F ⟨s', bs, closed⟩ := by
  rw [fill, if_pos rfl]
  split
  · next g t hg => rw [h] at hg; exact absurd hg (by simp)
  · next t hg => rw [h] at hg; exact absurd hg (by simp)
  · next u t hg =>
    rw [h] at hg
    simp only [Prod.mk.injEq, Except.ok.injEq, Option.some.injEq] at hg
    obtain ⟨rfl, rfl⟩ := hg
    cases v.toBytes <;> rfl

end Pull

/-- Filling stops at the first chunk that is not empty, or at the end with nothing. -/
theorem fill_of_supplies {s : φ} (h : F.Supplies s c) (closed : Bool) :
    ∃ x, fill F ⟨s, [], closed⟩ = (.ok (), x) ∧
      ((c = [] ∧ x.pending = [] ∧ F.Ends x.feed) ∨
        x.pending ≠ [] ∧ ∃ rest, c = x.pending ++ rest ∧ F.Supplies x.feed rest) := by
  induction h with
  | @ended s s' stop =>
    exact ⟨⟨s', [], closed⟩, fill_of_end stop closed, Or.inl ⟨rfl, rfl, s, stop⟩⟩
  | @chunk s s' v bs c pull spelled later ih =>
    have turn : fill F ⟨s, [], closed⟩ = fill F ⟨s', bs, closed⟩ := by
      rw [fill_of_chunk pull, spelled]
    by_cases none : bs = []
    · rw [turn, none, List.nil_append]
      exact ih
    · exact ⟨⟨s', bs, closed⟩, by rw [turn, fill_of_pending none],
        Or.inr ⟨none, c, rfl, later⟩⟩

/-- Before a read the pending bytes and the feed together hold what is still to come; after
filling they still do, and bytes are pending unless nothing is to come. -/
theorem exists_fill {x : Chunked φ} (h : F.Supplies x.feed c) :
    ∃ y, fill F x = (.ok (), y) ∧
      ((x.pending ++ c = [] ∧ y.pending = [] ∧ F.Ends y.feed) ∨
        y.pending ≠ [] ∧ ∃ rest, x.pending ++ c = y.pending ++ rest ∧ F.Supplies y.feed rest) := by
  by_cases empty : x.pending = []
  · obtain ⟨s, pending, closed⟩ := x
    obtain rfl : pending = [] := empty
    exact fill_of_supplies h closed
  · exact ⟨x, fill_of_pending empty, Or.inr ⟨empty, c, rfl, h⟩⟩

/-- A read of some bytes that there is room for takes them from one chunk. -/
theorem read_of_pos {size : Int} (asked : 0 < size ∧ size ≤ Value.maxCount) (x : Chunked φ) :
    (reader F).read size x = ((take F size.toNat x).1.map .bytes, (take F size.toNat x).2) := by
  show read Value.maxCount F size x = _
  rw [read, refusal_of_pos asked.1 asked.2]
  dsimp only
  rw [answer, if_neg (by omega)]

theorem read_of_fill {x y : Chunked φ} (h : fill F x = (.ok (), y)) {size : Int}
    (asked : 0 < size ∧ size ≤ Value.maxCount) :
    (reader F).read size x =
      (.ok (.bytes (y.pending.take size.toNat)),
        { y with pending := y.pending.drop size.toNat }) := by
  rw [read_of_pos asked, take, h]
  rfl

/-- A stream over chunks delivers the pending bytes and then the bytes of all the chunks. -/
theorem delivers {x : Chunked φ} (h : F.Supplies x.feed c) :
    (reader F).Delivers Value.maxCount x (x.pending ++ c) := by
  -- by induction on the number of bytes to come: each read hands out at least one of them
  generalize hn : (x.pending ++ c).length = n
  induction n using Nat.strongRecOn generalizing x c with
  | ind n ih =>
    subst hn
    obtain ⟨y, filled, ⟨none, empty, -⟩ | ⟨some, rest, same, later⟩⟩ := exists_fill h
    · rw [none]
      refine .ended fun size asked => ⟨.bytes [], ?_, rfl⟩
      rw [read_of_fill filled asked, empty, List.take_nil]
    · have front : ∀ size : Int, 0 < size → y.pending.take size.toNat ≠ [] := by
        intro size pos none
        rcases List.take_eq_nil_iff.1 none with h0 | h0
        · omega
        · exact some h0
      refine .more (fun size asked => ?_) fun size asked bs given => ?_
      · refine ⟨y.pending.take size.toNat, ?_, front size asked.1, ?_⟩
        · rw [read_of_fill filled asked]
        · rw [same]
          exact (List.take_prefix _ _).trans (List.prefix_append _ _)
      · have answer := read_of_fill filled asked
        have bytes : y.pending.take size.toNat = bs := by
          rw [answer] at given
          simpa using given
        have shorter : 0 < bs.length :=
          List.length_pos_iff.2 (bytes ▸ front size asked.1)
        have left : (x.pending ++ c).drop bs.length = y.pending.drop size.toNat ++ rest := by
          rw [same]
          conv_lhs => rw [← List.take_append_drop size.toNat y.pending]
          rw [List.append_assoc, bytes, List.drop_left]
        rw [left, answer]
        refine ih _ ?_ later rfl
        rw [← left, List.length_drop]
        have whole : 0 < (x.pending ++ c).length := by
          rw [same, List.length_append]
          have := List.length_pos_iff.2 some
          omega
        omega

/-- Closing a stream over chunks cannot fail. -/
theorem closesCleanly (F : Feed φ) (x : Chunked φ) : (reader F).ClosesCleanly x :=
  fun _ _ => rfl

/-! ### What becomes of the feed -/

/-- Filling pulls some chunks and does nothing else to the feed. -/
theorem pulls_fill (F : Feed φ) (x : Chunked φ) : F.Pulls x.feed (fill F x).2.feed := by
  fun_induction fill F x with
  | case1 x hp f s h => exact .single (by rw [h])
  | case2 x hp s h => exact .single (by rw [h])
  | case3 x hp v s h f hv => exact .single (by rw [h])
  | case4 x hp v s h bs hv ih => exact .head (by rw [h]) ih
  | case5 x hp => exact .refl

theorem pulls_take (F : Feed φ) (n : Nat) (x : Chunked φ) :
    F.Pulls x.feed (take F n x).2.feed := by
  have filled := pulls_fill F x
  unfold take
  split
  · next f y h => rw [h] at filled; exact filled
  · next y h => rw [h] at filled; exact filled

theorem pulls_takeAll (F : Feed φ) (x : Chunked φ) : F.Pulls x.feed (takeAll F x).2.feed := by
  fun_induction takeAll F x with
  | case1 x f y h => have filled := pulls_fill F x; rw [h] at filled; exact filled
  | case2 x y h hp => have filled := pulls_fill F x; rw [h] at filled; exact filled
  | case3 x y h hp f z hr ih =>
    have filled := pulls_fill F x
    rw [h] at filled
    rw [hr] at ih
    exact filled.trans ih
  | case4 x y h hp bs z hr ih =>
    have filled := pulls_fill F x
    rw [h] at filled
    rw [hr] at ih
    exact filled.trans ih

theorem pulls_answer (F : Feed φ) (size : Int) (x : Chunked φ) :
    F.Pulls x.feed (answer F size x).2.feed := by
  rw [answer]
  split
  · exact pulls_takeAll F x
  · exact pulls_take F _ x

theorem pulls_read (room : Int) (F : Feed φ) (size : Int) (x : Chunked φ) :
    F.Pulls x.feed (read room F size x).2.feed := by
  rw [read]
  split
  · exact .refl
  · exact pulls_answer F size x

/-- Whatever is done with a stream over chunks, its feed is only pulled. -/
theorem pulls_of_reaches {x y : Chunked φ} (h : (reader F).Reaches x y) :
    F.Pulls x.feed y.feed := by
  induction h with
  | refl => exact .refl
  | @tail y z _ step ih =>
    refine ih.trans ?_
    rcases step with ⟨size, rfl⟩ | rfl
    · exact pulls_read _ F size y
    · exact .refl

end Chunked

/-! ## The supplies -/

namespace Feed

/-- The items of an iterator supply what they spell. -/
theorem supplies_items {vs : List Value} {bss : List Bytes}
    (h : List.Forall₂ (fun v bs => v.toBytes = .ok bs) vs bss) :
    Feed.items.Supplies (vs.map .ok) bss.flatten := by
  induction h with
  | nil => exact .ended rfl
  | cons spelled later ih =>
    rw [List.flatten_cons]
    exact .chunk rfl spelled ih

variable {r : Reader σ} {s : σ} {size : Int}

/-- Pulling a live supply of pieces is a read. -/
theorem pull_pieces {s' : σ} {v : Value} (h : r.read size s = (.ok v, s')) :
    (Feed.pieces r).pull ⟨s, size, .live⟩ =
      if v.truthy = true then (.ok (some v), ⟨s', size, .live⟩)
      else (.ok none, ⟨s', size, .ended⟩) := by
  simp only [Feed.pieces, h]

theorem pull_pieces_of_fault {s' : σ} {f : Fault} (h : r.read size s = (.error f, s')) :
    (Feed.pieces r).pull ⟨s, size, .live⟩ = (.error f, ⟨s', size, .broken⟩) := by
  simp only [Feed.pieces, h]

/-- A supply of pieces goes on after every piece. -/
theorem supply_pull {x x' : Pulling σ} {v : Value}
    (h : (Feed.pieces r).pull x = (.ok (some v), x')) : x'.supply = x.supply := by
  obtain ⟨s, size, supply⟩ := x
  cases supply with
  | live =>
    cases hr : r.read size s with
    | mk answer s' =>
      cases answer with
      | error f =>
        rw [pull_pieces_of_fault hr] at h
        exact absurd (Prod.mk.inj h).1 (by simp)
      | ok u =>
        rw [pull_pieces hr] at h
        split at h
        · rw [← (Prod.mk.inj h).2]
        · exact absurd (Prod.mk.inj h).1 (by simp)
  | ended => exact absurd (Prod.mk.inj h).1 (by simp)
  | broken => exact absurd (Prod.mk.inj h).1 (by simp)

/-- A stream that delivers `c` supplies `c` when it is read in pieces. -/
theorem supplies_of_delivers {c : Bytes} (h : r.Delivers size s c) (pos : 0 < size) :
    (Feed.pieces r).Supplies ⟨s, size, .live⟩ c := by
  induction h with
  | @ended s stops =>
    obtain ⟨v, hv, falsy⟩ := stops size ⟨pos, Int.le_refl _⟩
    have ends : r.read size s = (.ok v, (r.read size s).2) := Prod.ext hv rfl
    have stop : (Feed.pieces r).pull ⟨s, size, .live⟩ =
        (.ok none, ⟨(r.read size s).2, size, .ended⟩) := by
      rw [pull_pieces ends, if_neg (by rw [falsy]; exact Bool.false_ne_true)]
    exact .ended stop
  | @more s c gives goesOn ih =>
    obtain ⟨bs, hbs, some, rest, rfl⟩ := gives size ⟨pos, Int.le_refl _⟩
    have later := ih size ⟨pos, Int.le_refl _⟩ bs hbs
    rw [List.drop_left] at later
    have piece : r.read size s = (.ok (.bytes bs), (r.read size s).2) := Prod.ext hbs rfl
    have pull : (Feed.pieces r).pull ⟨s, size, .live⟩ =
        (.ok (.some (.bytes bs)), ⟨(r.read size s).2, size, .live⟩) := by
      rw [pull_pieces piece, if_pos (Reader.truthy_of_ne_nil some)]
    exact .chunk pull (Value.toBytes_bytes bs) later

/-- Pulling pieces reads the stream underneath and never changes the size of a read. -/
theorem pulls_pieces {x y : Pulling σ} (h : (Feed.pieces r).Pulls x y) :
    r.Reads x.source y.source ∧ y.size = x.size := by
  induction h with
  | refl => exact ⟨Reader.reads_refl r _, rfl⟩
  | @tail y z _ step ih =>
    subst step
    obtain ⟨source, size, supply⟩ := y
    cases supply with
    | ended => exact ih
    | broken => exact ih
    | live =>
      have read : r.ReadStep source (r.read size source).2 := ⟨size, rfl⟩
      refine ⟨ih.1.trans ?_, ?_⟩
      · simp only [Feed.pieces]
        split
        · next f rest hr => rw [hr] at read; exact .single read
        · next v rest hr =>
          rw [hr] at read
          split <;> exact .single read
      · refine Eq.trans ?_ ih.2
        simp only [Feed.pieces]
        split
        · rfl
        · split <;> rfl

end Feed
end HttpTap
