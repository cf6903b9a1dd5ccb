import HttpTap.Stream.Script

/-!
# Streams over chunks

A body is often no stream but a supply of chunks: the items of a one-pass iterator, or the
pieces that a file gives when it is read again and again.  `Chunked` makes a stream of it.  The
bytes of a chunk that were not asked for yet are *pending*; only when none are pending is the
next chunk pulled.

A `Feed` is such a supply.  It pays for its chunks with weight, as a reader does for its
answers, and it may hand out empty chunks, which the stream skips.  Whether a feed that has failed
goes on is its own affair: an iterator may, while the pieces of a file end with the first fault.

A read of a given size makes room for the answer before it pulls anything.  How much room there is
depends on the machine, so it is a parameter (`Chunked.readerIn`); `Chunked.reader` is the stream on
a machine that can allocate `Value.maxCount` bytes at once.  To read into a buffer takes no room.

Closing a stream over chunks does not close what the chunks come from, which belongs to the
caller; and a closed one can still be read.
-/

namespace HttpTap

/-- A supply of chunks over the states `φ`. -/
structure Feed (φ : Type) where
  /-- The next chunk, or `none` at the end. -/
  pull : φ → Except Fault (Option Value) × φ
  weight : φ → Nat
  calls : φ → List Call
  /-- Every chunk is paid for. -/
  paid : ∀ s v s', pull s = (.ok (some v), s') → weight s' + (v.byteCount + 1) ≤ weight s
  /-- Nothing that happens adds weight. -/
  spent : ∀ s, weight (pull s).2 ≤ weight s

/-! ## Two feeds -/

/-- The items of a one-pass iterator.  After an item that is a fault it goes on with the next. -/
def Feed.items : Feed (List Item) where
  pull
    | [] => (.ok none, [])
    | .ok v :: is => (.ok (some v), is)
    | .error f :: is => (.error f, is)
  weight := Script.itemsWeight
  calls _ := []
  paid s v s' h := by
    match s, h with
    | [], h => simp at h
    | .error f :: is, h => simp at h
    | .ok w :: is, h =>
      simp only [Prod.mk.injEq, Except.ok.injEq, Option.some.injEq] at h
      obtain ⟨rfl, rfl⟩ := h
      simp only [Script.itemsWeight_cons, Script.itemWeight]
      omega
  spent s := by
    match s with
    | [] => simp
    | .error f :: is => simp
    | .ok w :: is => simp

/-- Whether a supply goes on, came to its end, or failed. -/
inductive Supply where
  | live
  | ended
  | broken
  deriving DecidableEq

/-- A stream that is read again and again with one size. -/
structure Pulling (σ : Type) where
  source : σ
  size : Int
  supply : Supply

/-- The pieces of a stream.  The first piece that is empty is the end. -/
def Feed.pieces {σ : Type} (r : Reader σ) : Feed (Pulling σ) where
  pull s :=
    match s.supply with
    | .live =>
      match r.read s.size s.source with
      | (.error f, rest) => (.error f, { s with source := rest, supply := .broken })
      | (.ok v, rest) =>
        if v.truthy then (.ok (some v), { s with source := rest })
        else (.ok none, { s with source := rest, supply := .ended })
    | _ => (.ok none, s)
  weight s := r.weight s.source
  calls s := r.calls s.source
  paid s v s' h := by
    have paid := r.paid s.size s.source
    split at h
    · split at h
      · simp at h
      · next w rest hr =>
        rw [hr] at paid
        split at h
        · next ht =>
          simp only [Prod.mk.injEq, Except.ok.injEq, Option.some.injEq] at h
          obtain ⟨rfl, rfl⟩ := h
          rw [Value.cost_of_truthy ht] at paid
          exact paid
        · simp at h
    · simp at h
  spent s := by
    have paid := r.paid s.size s.source
    split
    · split
      · next f rest hr =>
        rw [hr] at paid
        simp only at paid ⊢
        omega
      · next w rest hr =>
        rw [hr] at paid
        split <;> (simp only at paid ⊢; omega)
    · exact Nat.le_refl _

/-! ## The stream -/

/-- A stream over a feed: the bytes of the last chunk that are still to come. -/
structure Chunked (φ : Type) where
  feed : φ
  pending : Bytes
  closed : Bool

namespace Chunked

variable {φ : Type}

/-- A stream over a fresh feed. -/
def ofFeed (s : φ) : Chunked φ := ⟨s, [], false⟩

/-- Pull chunks until bytes are pending or the feed is at its end. -/
def fill (F : Feed φ) (c : Chunked φ) : Except Fault Unit × Chunked φ :=
  if c.pending = [] then
    match _h : F.pull c.feed with
    | (.error f, s) => (.error f, { c with feed := s })
    | (.ok none, s) => (.ok (), { c with feed := s })
    | (.ok (some v), s) =>
      match v.toBytes with
      | .error f => (.error f, { c with feed := s })
      | .ok bs => fill F { c with feed := s, pending := bs }
  else (.ok (), c)
termination_by F.weight c.feed
decreasing_by
  have := F.paid _ _ _ _h
  omega

/-- Hand out at most `n` pending bytes, of at most one chunk. -/
def take (F : Feed φ) (n : Nat) (c : Chunked φ) : Except Fault Bytes × Chunked φ :=
  match fill F c with
  | (.error f, c) => (.error f, c)
  | (.ok (), c) => (.ok (c.pending.take n), { c with pending := c.pending.drop n })

/-- What a stream weighs. -/
def weight (F : Feed φ) (c : Chunked φ) : Nat := 2 * F.weight c.feed + 2 * c.pending.length

/-- Filling adds no weight. -/
theorem weight_fill_le (F : Feed φ) (c : Chunked φ) :
    weight F (fill F c).2 ≤ weight F c := by
  fun_induction fill F c with
  | case1 c hp f s h =>
    have := F.spent c.feed
    rw [h] at this
    simp only [weight, hp] at this ⊢
    omega
  | case2 c hp s h =>
    have := F.spent c.feed
    rw [h] at this
    simp only [weight, hp] at this ⊢
    omega
  | case3 c hp v s h f hv =>
    have := F.spent c.feed
    rw [h] at this
    simp only [weight, hp] at this ⊢
    omega
  | case4 c hp v s h bs hv ih =>
    have paid := F.paid _ _ _ h
    rw [Value.byteCount_of_toBytes hv] at paid
    refine Nat.le_trans ih ?_
    simp only [weight, hp, List.length_nil]
    omega
  | case5 c hp => exact Nat.le_refl _

/-- Bytes handed out are paid for by the pending ones. -/
theorem paid_take (F : Feed φ) (n : Nat) (c : Chunked φ) :
    weight F (take F n c).2 + Value.cost ((take F n c).1.map .bytes) ≤ weight F c := by
  have fills := weight_fill_le F c
  unfold take
  split
  · next f c' h =>
    rw [h] at fills
    simpa [Except.map] using fills
  · next c' h =>
    rw [h] at fills
    have cheap := Value.cost_bytes_le (c'.pending.take n)
    simp only [Except.map, weight, List.length_drop, List.length_take] at cheap fills ⊢
    omega

/-- All that is left: chunk after chunk until the feed is at its end.  A fault on the way loses
the bytes read so far. -/
def takeAll (F : Feed φ) (c : Chunked φ) : Except Fault Bytes × Chunked φ :=
  match _h : fill F c with
  | (.error f, c) => (.error f, c)
  | (.ok (), c') =>
    if _hp : c'.pending = [] then (.ok [], c')
    else
      match takeAll F { c' with pending := [] } with
      | (.error f, c'') => (.error f, c'')
      | (.ok bs, c'') => (.ok (c'.pending ++ bs), c'')
termination_by weight F c
decreasing_by
  have fills := weight_fill_le F c
  rw [_h] at fills
  have : 0 < c'.pending.length := List.length_pos_iff.2 _hp
  simp only [weight, List.length_nil] at fills ⊢
  omega

/-- Twice the number of bytes of a read that did not fail. -/
def twiceRead : Except Fault Bytes → Nat
  | .ok bs => 2 * bs.length
  | .error _ => 0

/-- Every byte read costs the feed two units of its weight. -/
theorem twiceRead_takeAll_le (F : Feed φ) (c : Chunked φ) :
    weight F (takeAll F c).2 + twiceRead (takeAll F c).1 ≤ weight F c := by
  fun_induction takeAll F c with
  | case1 c f c' h =>
    have fills := weight_fill_le F c
    rw [h] at fills
    simpa [twiceRead] using fills
  | case2 c c' h hp =>
    have fills := weight_fill_le F c
    rw [h] at fills
    simpa [twiceRead] using fills
  | case3 c c' h hp f c'' hr ih =>
    have fills := weight_fill_le F c
    rw [h] at fills
    rw [hr] at ih
    simp only [twiceRead, weight, List.length_nil] at fills ih ⊢
    omega
  | case4 c c' h hp bs c'' hr ih =>
    have fills := weight_fill_le F c
    rw [h] at fills
    rw [hr] at ih
    simp only [twiceRead, weight, List.length_nil, List.length_append] at fills ih ⊢
    omega

/-- All the bytes handed out are paid for. -/
theorem paid_takeAll (F : Feed φ) (c : Chunked φ) :
    weight F (takeAll F c).2 + Value.cost ((takeAll F c).1.map .bytes) ≤ weight F c := by
  have bound := twiceRead_takeAll_le F c
  cases h : (takeAll F c).1 with
  | error f =>
    rw [h] at bound
    simpa [twiceRead, Except.map] using bound
  | ok bs =>
    rw [h] at bound
    have cheap := Value.cost_bytes_le bs
    simp only [Except.map, twiceRead] at cheap bound ⊢
    omega

/-- How many bytes a read makes room for at once.  What asks for all that is left reads buffers of
one size. -/
def asked (size : Int) : Int := if size < 0 then 8192 else size

/-- Why a read fails before anything is pulled, if it does: the number is no size, or there is no
room for so many bytes. -/
def refusal (room size : Int) : Option Fault :=
  if !isSize size then some noSize
  else if room < asked size then some (.misuse .memory "")
  else none

theorem refusal_eq_none_iff {room size : Int} :
    refusal room size = none ↔ isSize size = true ∧ asked size ≤ room := by
  unfold refusal
  split
  · next none => simpa using fun word => absurd word (by simpa using none)
  · next word =>
    split
    · next large => exact ⟨nofun, fun fits => absurd fits.2 (by omega)⟩
    · next small => exact ⟨fun _ => ⟨by simpa using word, by omega⟩, fun _ => rfl⟩

/-- Nothing is refused that a machine has room for. -/
theorem refusal_of_pos {size : Int} (pos : 0 < size) (small : size ≤ Value.maxCount) :
    refusal Value.maxCount size = none := by
  have room : Value.maxCount ≤ largestSize := by decide
  refine refusal_eq_none_iff.2 ⟨isSize_of_pos pos (by omega), ?_⟩
  rw [asked, if_neg (by omega)]
  exact small

/-- A read that is refused can be guarded against. -/
theorem interrupts_of_refusal {room size : Int} {f : Fault} (h : refusal room size = some f) :
    f.interrupts = false := by
  unfold refusal at h
  split at h
  · rw [← Option.some.inj h]
    rfl
  · split at h
    · rw [← Option.some.inj h]
      rfl
    · cases h

/-- What is pulled for a read: all that is left for a size below zero, else bytes of at most one
chunk. -/
def answer (F : Feed φ) (size : Int) (c : Chunked φ) : Except Fault Bytes × Chunked φ :=
  if size < 0 then takeAll F c else take F size.toNat c

theorem paid_answer (F : Feed φ) (size : Int) (c : Chunked φ) :
    weight F (answer F size c).2 + Value.cost ((answer F size c).1.map .bytes) ≤ weight F c := by
  unfold answer
  split
  · exact paid_takeAll F c
  · exact paid_take F _ c

/-- One read. -/
def read (room : Int) (F : Feed φ) (size : Int) (c : Chunked φ) : Except Fault Value × Chunked φ :=
  match refusal room size with
  | some f => (.error f, c)
  | none => ((answer F size c).1.map .bytes, (answer F size c).2)

/-- A feed as a stream, where there is room for so many bytes at once. -/
def readerIn (room : Int) (F : Feed φ) : Reader (Chunked φ) where
  read := read room F
  into cells c := ((take F cells c).1.map .bytes, (take F cells c).2)
  close c := (.ok (), { c with closed := true })
  weight := weight F
  calls c := F.calls c.feed
  paid size c := by
    unfold read
    split
    · simp
    · exact paid_answer F size c

/-- A feed as a stream. -/
def reader (F : Feed φ) : Reader (Chunked φ) := readerIn Value.maxCount F

end Chunked
end HttpTap
