import HttpTap.Proofs.Reading.Chunks

/-!
# What is taken from a feed

A stream over chunks pulls a chunk whenever nothing is pending.  So what becomes of its feed does
not depend on the sizes of the reads, but only on how many bytes are wanted.  `Feed.gather` takes
chunks until so many bytes are in hand, or all of them, and tells what they spell, which fault ended
it if one did, and where the feed was left.

* Draining a stream over chunks gathers all of them (`Chunked.drain_eq`).
* A bounded reading gathers the limit and one byte more (`Chunked.readBounded_eq`).
* What is gathered without a fault is what the feed supplies (`Feed.supplies_of_gather`).
* A stream read in pieces and the items of an iterator are gathered up to the first fault
  (`Feed.gather_pieces`, `Feed.gather_items`).
-/

namespace HttpTap

variable {σ φ : Type}

/-- The same after some bytes. -/
def Drained.after (bs : Bytes) (d : Drained σ) : Drained σ := ⟨bs ++ d.data, d.fault, d.rest⟩

theorem Drained.after_after (bs cs : Bytes) (d : Drained σ) :
    (d.after cs).after bs = d.after (bs ++ cs) := by
  simp [after]

/-- What a reading up to a limit makes of what was taken: the bytes under the limit and whether there
are more, or the fault that ended it. -/
def Drained.upTo (limit : Int) (d : Drained σ) : Except Fault BoundedRead :=
  match d.fault with
  | some f => .error f
  | none => .ok ⟨d.data.take limit.toNat, decide (limit.toNat < d.data.length)⟩

/-- Take chunks until the missing bytes are in hand, or all chunks if nothing is said about that. -/
def Feed.gather (F : Feed φ) (missing : Option Nat) (s : φ) : Drained φ :=
  if missing = some 0 then ⟨[], none, s⟩
  else
    match _h : F.pull s with
    | (.error f, s') => ⟨[], some f, s'⟩
    | (.ok none, s') => ⟨[], none, s'⟩
    | (.ok (some v), s') =>
      match v.toBytes with
      | .error f => ⟨[], some f, s'⟩
      | .ok bs => (F.gather (missing.map (· - bs.length)) s').after bs
termination_by F.weight s
decreasing_by
  have := F.paid _ _ _ _h
  omega

namespace Feed

variable {F : Feed φ} {missing : Option Nat} {s s' : φ} {v : Value} {f : Fault} {bs : Bytes}

theorem gather_of_fault (want : missing ≠ some 0) (h : F.pull s = (.error f, s')) :
    F.gather missing s = ⟨[], some f, s'⟩ := by
  rw [gather, if_neg want]
  split
  · next g t hg => rw [h] at hg; simp_all
  · next t hg => rw [h] at hg; exact absurd hg (by simp)
  · next u t hg => rw [h] at hg; exact absurd hg (by simp)

theorem gather_of_end (want : missing ≠ some 0) (h : F.pull s = (.ok none, s')) :
    F.gather missing s = ⟨[], none, s'⟩ := by
  rw [gather, if_neg want]
  split
  · next g t hg => rw [h] at hg; exact absurd hg (by simp)
  · next t hg => rw [h] at hg; simp_all
  · next u t hg => rw [h] at hg; exact absurd hg (by simp)

theorem gather_of_chunk (want : missing ≠ some 0) (h : F.pull s = (.ok (some v), s')) :
    F.gather missing s = match v.toBytes with
      | .error f => ⟨[], some f, s'⟩
      | .ok bs => (F.gather (missing.map (· - bs.length)) s').after bs := by
  rw [gather, if_neg want]
  split
  · next g t hg => rw [h] at hg; exact absurd hg (by simp)
  · next t hg => rw [h] at hg; exact absurd hg (by simp)
  · next u t hg =>
    rw [h] at hg
    simp only [Prod.mk.injEq, Except.ok.injEq, Option.some.injEq] at hg
    obtain ⟨rfl, rfl⟩ := hg
    cases v.toBytes <;> rfl

/-- Nothing is done to the feed but pulling. -/
theorem pulls_gather (F : Feed φ) (missing : Option Nat) (s : φ) :
    F.Pulls s (F.gather missing s).rest := by
  fun_induction F.gather missing s with
  | case1 s => exact .refl
  | case2 missing s want f s' h => exact .single (by rw [h])
  | case3 missing s want s' h => exact .single (by rw [h])
  | case4 missing s want v s' h f bad => exact .single (by rw [h])
  | case5 missing s want v s' h bs good ih => exact .head (by rw [h]) ih

/-- What can be gathered without a fault is what the feed supplies. -/
theorem supplies_of_gather (h : (F.gather none s).fault = none) :
    F.Supplies s (F.gather none s).data := by
  generalize hm : (none : Option Nat) = missing at h ⊢
  fun_induction F.gather missing s with
  | case1 s => exact absurd hm (by simp)
  | case2 missing s want f s' h' => exact absurd h (by simp)
  | case3 missing s want s' h' => exact .ended h'
  | case4 missing s want v s' h' f bad => exact absurd h (by simp)
  | case5 missing s want v s' h' bs good ih =>
    subst hm
    exact .chunk h' good (ih rfl h)

/-! ### Two feeds -/

/-- The pieces of a stream are gathered up to the first fault. -/
theorem gather_pieces {r : Reader σ} {t t' : σ} {size : Int} {vs : List Value} {bss : List Bytes}
    {fault : Option Fault} (h : r.pieces size t = (vs, fault, t'))
    (spelled : List.Forall₂ (fun v bs => v.toBytes = .ok bs) vs bss) :
    (Feed.pieces r).gather none ⟨t, size, .live⟩ =
      ⟨bss.flatten, fault, ⟨t', size, if fault = none then .ended else .broken⟩⟩ := by
  induction spelled generalizing t with
  | nil =>
    rw [Reader.pieces] at h
    split at h
    · next f u hr =>
      obtain ⟨-, rfl, rfl⟩ : [] = ([] : List Value) ∧ some f = fault ∧ u = t' := by simpa using h
      exact gather_of_fault (by simp) (pull_pieces_of_fault hr)
    · next v u hr =>
      split at h
      · simp at h
      · next ht =>
        obtain ⟨-, rfl, rfl⟩ : [] = ([] : List Value) ∧ none = fault ∧ u = t' := by simpa using h
        have stop : (Feed.pieces r).pull ⟨t, size, .live⟩ = (.ok none, ⟨u, size, .ended⟩) := by
          rw [pull_pieces hr, if_neg ht]
        exact gather_of_end (by simp) stop
  | @cons v bs vs bss first later ih =>
    rw [Reader.pieces] at h
    split at h
    · simp at h
    · next u x hr =>
      split at h
      · next ht =>
        simp only [Prod.mk.injEq, List.cons.injEq] at h
        obtain ⟨⟨rfl, rest⟩, same, state⟩ := h
        have pull : (Feed.pieces r).pull ⟨t, size, .live⟩ = (.ok (some u), ⟨x, size, .live⟩) := by
          rw [pull_pieces hr, if_pos ht]
        rw [gather_of_chunk (by simp) pull, first]
        show ((Feed.pieces r).gather none ⟨x, size, .live⟩).after bs = _
        rw [ih (Prod.ext rest (Prod.ext same state))]
        rfl
      · simp at h

/-- The pieces of a stream, each with what it spells, are what the stream supplies. -/
theorem supplies_of_pieces {r : Reader σ} {t t' : σ} {size : Int} {vs : List Value}
    {bss : List Bytes} (h : r.pieces size t = (vs, none, t'))
    (spelled : List.Forall₂ (fun v bs => v.toBytes = .ok bs) vs bss) :
    (Feed.pieces r).Supplies ⟨t, size, .live⟩ bss.flatten := by
  have gathered := gather_pieces h spelled
  have supplies := supplies_of_gather (F := .pieces r) (s := ⟨t, size, .live⟩) (by rw [gathered])
  rw [gathered] at supplies
  exact supplies

/-- What fails when it is read in pieces cannot be gathered. -/
theorem fault_gather_of_pieces {r : Reader σ} {t : σ} {size : Int}
    (failed : (r.pieces size t).2.1 ≠ none) :
    ((Feed.pieces r).gather none ⟨t, size, .live⟩).fault ≠ none := by
  fun_induction r.pieces size t with
  | case1 t f t' hr =>
    rw [gather_of_fault (by simp) (pull_pieces_of_fault hr)]
    exact Option.some_ne_none f
  | case2 t v t' hr truthy vs fault rest later ih =>
    have pull : (Feed.pieces r).pull ⟨t, size, .live⟩ = (.ok (some v), ⟨t', size, .live⟩) := by
      rw [pull_pieces hr, if_pos truthy]
    rw [gather_of_chunk (by simp) pull]
    cases v.toBytes with
    | error f => exact Option.some_ne_none f
    | ok bs => exact ih (by rw [later]; exact failed)
  | case3 t v t' hr falsy => exact absurd rfl failed

/-- The items of an iterator are gathered up to the first fault, and what follows it is left. -/
theorem gather_items {vs : List Value} {bss : List Bytes}
    (spelled : List.Forall₂ (fun v bs => v.toBytes = .ok bs) vs bss) (f : Fault) (is : List Item) :
    Feed.items.gather none (vs.map .ok ++ .error f :: is) = ⟨bss.flatten, some f, is⟩ := by
  induction spelled with
  | nil => exact gather_of_fault (by simp) rfl
  | @cons v bs vs bss first later ih =>
    have pull : Feed.items.pull (.ok v :: (vs.map .ok ++ .error f :: is)) =
        (.ok (some v), vs.map .ok ++ .error f :: is) := rfl
    rw [List.map_cons, List.cons_append, gather_of_chunk (by simp) pull, first]
    show (Feed.items.gather none _).after bs = _
    rw [ih]
    rfl

/-- A stream that fails while it is read in pieces has not come to its end. -/
theorem supply_gather_ne_ended {r : Reader σ} {x : Pulling σ} (live : x.supply = .live)
    (failed : ((Feed.pieces r).gather missing x).fault ≠ none) :
    ((Feed.pieces r).gather missing x).rest.supply ≠ .ended := by
  fun_induction (Feed.pieces r).gather missing x with
  | case1 x => exact absurd rfl failed
  | case2 missing x want f x' h =>
    obtain ⟨t, size, supply⟩ := x
    obtain rfl : supply = .live := live
    cases hr : r.read size t with
    | mk answer t' =>
      cases answer with
      | error g =>
        rw [pull_pieces_of_fault hr] at h
        rw [← (Prod.mk.inj h).2]
        exact Supply.noConfusion
      | ok v =>
        rw [pull_pieces hr] at h
        split at h <;> exact absurd (Prod.mk.inj h).1 (by simp)
  | case3 missing x want x' h => exact absurd rfl failed
  | case4 missing x want v x' h f bad =>
    rw [supply_pull h, live]
    exact Supply.noConfusion
  | case5 missing x want v x' h bs good ih => exact ih ((supply_pull h).trans live) failed

end Feed

/-! ## The stream -/

namespace Chunked

variable {F : Feed φ} {missing : Option Nat}

/-- Take chunks until the missing bytes are in hand, the pending ones among them. -/
def gather (F : Feed φ) (missing : Option Nat) (x : Chunked φ) : Drained φ :=
  (F.gather (missing.map (· - x.pending.length)) x.feed).after x.pending

theorem gather_nothing_pending (F : Feed φ) (missing : Option Nat) (s : φ) (closed : Bool) :
    gather F missing ⟨s, [], closed⟩ = F.gather missing s := by
  cases missing <;> rfl

/-- Filling is the beginning of gathering, as long as something is missing. -/
theorem fill_gather (want : missing ≠ some 0) (x : Chunked φ) :
    (∃ f s, fill F x = (.error f, ⟨s, [], x.closed⟩) ∧ gather F missing x = ⟨[], some f, s⟩) ∨
    (∃ s, fill F x = (.ok (), ⟨s, [], x.closed⟩) ∧ gather F missing x = ⟨[], none, s⟩) ∨
    ∃ y, fill F x = (.ok (), y) ∧ y.pending ≠ [] ∧ y.closed = x.closed ∧
      gather F missing x = gather F missing y := by
  obtain ⟨s, pending, closed⟩ := x
  by_cases empty : pending = []
  · subst empty
    rw [gather_nothing_pending]
    -- by induction on the chunks that are empty
    fun_induction F.gather missing s with
    | case1 s => exact absurd rfl want
    | case2 missing s _ f s' h => exact .inl ⟨f, s', fill_of_fault h closed, rfl⟩
    | case3 missing s _ s' h => exact .inr (.inl ⟨s', fill_of_end h closed, rfl⟩)
    | case4 missing s _ v s' h f bad =>
      exact .inl ⟨f, s', by rw [fill_of_chunk h, bad], rfl⟩
    | case5 missing s _ v s' h bs good ih =>
      have turn : fill F ⟨s, [], closed⟩ = fill F ⟨s', bs, closed⟩ := by
        rw [fill_of_chunk h, good]
      rw [turn]
      by_cases none : bs = []
      · subst none
        have same : missing.map (· - ([] : Bytes).length) = missing := by cases missing <;> rfl
        rw [same] at ih ⊢
        exact ih want
      · exact .inr (.inr ⟨⟨s', bs, closed⟩, fill_of_pending none, none, rfl, rfl⟩)
  · exact .inr (.inr ⟨_, fill_of_pending empty, empty, rfl, rfl⟩)

/-- Bytes that are handed out are gathered first. -/
theorem gather_take (F : Feed φ) (missing : Option Nat) (y : Chunked φ) {k : Nat}
    (few : ∀ n, missing = some n → k ≤ n) :
    gather F missing y = (gather F (missing.map (· - (y.pending.take k).length))
      { y with pending := y.pending.drop k }).after (y.pending.take k) := by
  have short : ∀ n, missing = some n →
      n - (y.pending.take k).length - (y.pending.drop k).length = n - y.pending.length := by
    intro n hn
    have := few n hn
    rw [List.length_take, List.length_drop]
    omega
  have rest : (missing.map (· - (y.pending.take k).length)).map (· - (y.pending.drop k).length) =
      missing.map (· - y.pending.length) := by
    cases missing with
    | none => rfl
    | some n => exact congrArg some (short n rfl)
  rw [gather, gather, rest, Drained.after_after, List.take_append_drop]

theorem read_of_fault {x y : Chunked φ} {f : Fault} (h : fill F x = (.error f, y)) {size : Int}
    (asked : 0 < size ∧ size ≤ Value.maxCount) : (reader F).read size x = (.error f, y) := by
  rw [read_of_pos asked, take, h]
  rfl

end Chunked

namespace Reader

variable {r : Reader σ} {s s' : σ} {size : Int} {f : Fault}

theorem drain_of_fault (h : r.read size s = (.error f, s')) :
    r.drain size s = ⟨[], some f, s'⟩ := by
  rw [drain]
  split
  · next g t hr => rw [h] at hr; simp_all
  · next v t hr => rw [h] at hr; exact absurd hr (by simp)

theorem pieces_of_fault (h : r.read size s = (.error f, s')) :
    r.pieces size s = ([], some f, s') := by
  rw [pieces]
  split
  · next g t hr => rw [h] at hr; simp_all
  · next v t hr => rw [h] at hr; exact absurd hr (by simp)

theorem pieces_of_value {v : Value} (h : r.read size s = (.ok v, s')) :
    r.pieces size s = if v.truthy = true then
        (v :: (r.pieces size s').1, (r.pieces size s').2.1, (r.pieces size s').2.2)
      else ([], none, s') := by
  rw [pieces]
  split
  · next f t hr => rw [hr] at h; exact absurd h (by simp)
  · next u t hr =>
    rw [h] at hr
    simp only [Prod.mk.injEq, Except.ok.injEq] at hr
    obtain ⟨rfl, rfl⟩ := hr
    split <;> rfl

theorem collect_of_fault {chunk : Int} {missing : Nat} (hm : missing ≠ 0)
    (h : r.read (min chunk missing) s = (.error f, s')) :
    r.collect chunk missing s = ⟨[], some f, s'⟩ := by
  rw [collect, if_neg hm]
  split
  · next g t hr => rw [h] at hr; simp_all
  · next v t hr => rw [h] at hr; exact absurd hr (by simp)

end Reader

namespace Chunked

variable {F : Feed φ}

/-- Draining a stream over chunks gathers them all, whatever the size of a read that there is room
for. -/
theorem drain_eq (F : Feed φ) (x : Chunked φ) {size : Int}
    (asked : 0 < size ∧ size ≤ Value.maxCount) :
    (reader F).drain size x = ⟨(gather F none x).data, (gather F none x).fault,
      ⟨(gather F none x).rest, [], x.closed⟩⟩ := by
  -- by induction on the weight: each read that goes on costs some
  generalize hn : (reader F).weight x = n
  induction n using Nat.strongRecOn generalizing x with
  | ind n ih =>
    subst hn
    rcases fill_gather (show (none : Option Nat) ≠ some 0 by simp) (F := F) x with
      ⟨f, s, filled, gathered⟩ | ⟨s, filled, gathered⟩ | ⟨y, filled, some, closed, gathered⟩
    · rw [Reader.drain_of_fault (read_of_fault filled asked), gathered]
    · have answer : (reader F).read size x = (.ok (.bytes []), ⟨s, [], x.closed⟩) := by
        rw [read_of_fill filled asked, List.take_nil, List.drop_nil]
      rw [Reader.drain_of_end answer rfl, gathered]
    · have answer := read_of_fill filled asked
      have front : y.pending.take size.toNat ≠ [] := by
        simpa [List.take_eq_nil_iff] using ⟨by omega, some⟩
      have lighter := (reader F).weight_lt answer (Reader.truthy_of_ne_nil front)
      rw [Reader.drain_of_piece answer front, ih _ lighter _ rfl, gathered,
        gather_take F none y (k := size.toNat) (by simp), ← closed]
      rfl

/-- Collecting from a stream over chunks gathers what is missing; what was gathered beyond that is
pending. -/
theorem collect_eq (F : Feed φ) (x : Chunked φ) {chunk : Int}
    (within : 0 < chunk ∧ chunk ≤ Value.maxCount) (missing : Nat) :
    (reader F).collect chunk missing x = ⟨(gather F (some missing) x).data.take missing,
      (gather F (some missing) x).fault, ⟨(gather F (some missing) x).rest,
        (gather F (some missing) x).data.drop missing, x.closed⟩⟩ := by
  generalize hn : (reader F).weight x = n
  induction n using Nat.strongRecOn generalizing x missing with
  | ind n ih =>
    subst hn
    by_cases hm : missing = 0
    · subst hm
      rw [Reader.collect, if_pos rfl, gather, Option.map_some, Nat.zero_sub, Feed.gather, if_pos rfl]
      simp [Drained.after]
    · have asked : 0 < min chunk (missing : Int) ∧ min chunk (missing : Int) ≤ Value.maxCount := by
        omega
      rcases fill_gather (show some missing ≠ some 0 by simpa using hm) (F := F) x with
        ⟨f, s, filled, gathered⟩ | ⟨s, filled, gathered⟩ | ⟨y, filled, left, closed, gathered⟩
      · rw [Reader.collect_of_fault hm (read_of_fault filled asked), gathered]
        simp
      · have answer : (reader F).read (min chunk missing) x =
            (.ok (.bytes []), ⟨s, [], x.closed⟩) := by
          rw [read_of_fill filled asked, List.take_nil, List.drop_nil]
        rw [Reader.collect_of_end hm answer rfl, gathered]
        simp
      · set k := (min chunk (missing : Int)).toNat with hk
        have answer := read_of_fill filled asked
        have front : y.pending.take k ≠ [] := by
          simpa [List.take_eq_nil_iff] using ⟨by omega, left⟩
        have lighter := (reader F).weight_lt answer (Reader.truthy_of_ne_nil front)
        have few : (y.pending.take k).length ≤ missing := by
          rw [List.length_take]
          omega
        rw [Reader.collect_of_piece hm answer front, ih _ lighter _ _ rfl, gathered,
          gather_take F (some missing) y (k := k) (fun n hn => by
            obtain rfl := Option.some.inj hn
            omega), ← closed]
        simp only [Option.map_some, Drained.after, List.take_append, List.drop_append,
          List.take_of_length_le few, List.drop_eq_nil_of_le few, List.nil_append]
        rfl

/-- A bounded reading gathers one byte more than the limit, and what it gives are the bytes under the
limit or the fault that came first. -/
theorem readBounded_eq (F : Feed φ) (s : φ) (closed : Bool) {limit chunk : Int} (pos : 0 < limit)
    (within : 0 < chunk ∧ chunk ≤ Value.maxCount) :
    (reader F).readBounded limit chunk ⟨s, [], closed⟩ =
      ((F.gather (some (limit.toNat + 1)) s).upTo limit,
        ⟨(F.gather (some (limit.toNat + 1)) s).rest,
          (F.gather (some (limit.toNat + 1)) s).data.drop (limit.toNat + 1), closed⟩) := by
  set d := F.gather (some (limit.toNat + 1)) s with hd
  have under : (d.data.take (limit.toNat + 1)).take limit.toNat = d.data.take limit.toNat := by
    rw [List.take_take, Nat.min_eq_left (Nat.le_succ _)]
  have longer : decide (limit.toNat < (d.data.take (limit.toNat + 1)).length) =
      decide (limit.toNat < d.data.length) := by
    rw [List.length_take]
    exact decide_eq_decide.2 (by omega)
  rw [Reader.readBounded, if_neg (by omega)]
  simp only [collect_eq F _ within, gather_nothing_pending, ← hd, under, longer]
  rw [Drained.upTo]
  cases d.fault <;> rfl

end Chunked
end HttpTap
