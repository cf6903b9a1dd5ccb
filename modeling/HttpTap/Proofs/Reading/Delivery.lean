import HttpTap.Stream.Reader
import Mathlib.Logic.Relation

/-!
# What a stream delivers

A reader may cut its bytes into pieces as it likes.  `Reader.Delivers r most s c` says that the
pieces add up to `c` all the same: as long as something is left, every read of at most `most` bytes
gives some of it from the front; when nothing is left, the next read gives something that counts as
the end.  A piece may be shorter than what was asked for, and it may be longer.  `Reader.Obeys` says
of a reader that no piece is longer, and allows for a fault where the bytes end.  Nothing is said
about larger reads, since a stream of the machine may have no room for them.

Two ways of reading a whole stream are settled by that alone.

* `drain_of_delivers`: draining collects `c`, whatever the size of a read up to `most`.
* `readBounded_of_delivers`: a bounded reading has the first bytes of `c` up to the limit, and
  says whether `c` goes on.

## After any reads

A fact about closing a stream has to hold after whatever reads have gone before.  `Reads` relates
a state to the states that reads lead to, and `Reaches` lets closing be among the steps.

## Readers inside readers

A reader that reads another one through an embedding of states (`Embeds`) delivers what that one
delivers.
-/

namespace HttpTap
namespace Reader

variable {σ : Type} {r : Reader σ} {s s' : σ} {c : Bytes} {most : Int}

/-! ## States that a reader comes to -/

/-- One read leads from the one state to the other. -/
def ReadStep (r : Reader σ) (s s' : σ) : Prop := ∃ size, s' = (r.read size s).2

/-- Some reads lead from the one state to the other. -/
def Reads (r : Reader σ) : σ → σ → Prop := Relation.ReflTransGen r.ReadStep

/-- Some reads and closings lead from the one state to the other. -/
def Reaches (r : Reader σ) : σ → σ → Prop :=
  Relation.ReflTransGen fun s s' => r.ReadStep s s' ∨ s' = (r.close s).2

theorem reads_refl (r : Reader σ) (s : σ) : r.Reads s s := Relation.ReflTransGen.refl

/-- A read and whatever reads come after it. -/
theorem reads_of_read {size : Int} (h : r.Reads (r.read size s).2 s') : r.Reads s s' :=
  Relation.ReflTransGen.head ⟨size, rfl⟩ h

theorem Reads.reaches (h : r.Reads s s') : r.Reaches s s' :=
  Relation.ReflTransGen.mono (fun _ _ step => Or.inl step) _ _ h

/-- Closing succeeds, now and after any reads. -/
def ClosesCleanly (r : Reader σ) (s : σ) : Prop :=
  ∀ s', r.Reads s s' → (r.close s').1 = .ok ()

/-! ## Delivering -/

/-- From the state `s` on the reader gives the bytes `c` in pieces of its own choosing, and then
something that ends a loop, as long as it is asked for no more than `most` bytes at once. -/
inductive Delivers (r : Reader σ) (most : Int) : σ → Bytes → Prop
  | ended {s : σ} (stops : ∀ size, 0 < size ∧ size ≤ most →
      ∃ v, (r.read size s).1 = .ok v ∧ v.truthy = false) :
    Delivers r most s []
  | more {s : σ} {c : Bytes}
    (gives : ∀ size, 0 < size ∧ size ≤ most →
      ∃ bs, (r.read size s).1 = .ok (.bytes bs) ∧ bs ≠ [] ∧ bs <+: c)
    (goesOn : ∀ size, 0 < size ∧ size ≤ most → ∀ bs, (r.read size s).1 = .ok (.bytes bs) →
      Delivers r most (r.read size s).2 (c.drop bs.length)) :
    Delivers r most s c

/-- From the state `s` on each read of at most `most` bytes gives at least one byte of `c` and no
more than was asked for.  At the end of `c` comes something that ends a loop, or the fault `stop`. -/
inductive Obeys (r : Reader σ) (most : Int) : σ → Bytes → Option Fault → Prop
  | ended {s : σ} (stops : ∀ size, 0 < size ∧ size ≤ most →
      ∃ v, (r.read size s).1 = .ok v ∧ v.truthy = false) :
    Obeys r most s [] none
  | broken {s : σ} {f : Fault}
    (fails : ∀ size, 0 < size ∧ size ≤ most → (r.read size s).1 = .error f) :
    Obeys r most s [] (some f)
  | more {s : σ} {c : Bytes} {stop : Option Fault}
    (gives : ∀ size, 0 < size ∧ size ≤ most → ∃ bs, (r.read size s).1 = .ok (.bytes bs) ∧
      bs ≠ [] ∧ (bs.length : Int) ≤ size ∧ bs <+: c)
    (goesOn : ∀ size, 0 < size ∧ size ≤ most → ∀ bs, (r.read size s).1 = .ok (.bytes bs) →
      Obeys r most (r.read size s).2 (c.drop bs.length) stop) :
    Obeys r most s c stop

theorem Obeys.delivers (h : r.Obeys most s c none) : r.Delivers most s c := by
  generalize hn : (none : Option Fault) = stop at h
  induction h with
  | ended stops => exact .ended stops
  | broken fails => exact absurd hn (by simp)
  | more gives goesOn ih =>
    refine .more (fun size asked => ?_) fun size asked bs given => ih size asked bs given hn
    obtain ⟨bs, answer, some, -, front⟩ := gives size asked
    exact ⟨bs, answer, some, front⟩

/-- What is delivered to larger reads is delivered to smaller ones. -/
theorem Delivers.mono {fewer : Int} (le : fewer ≤ most) (h : r.Delivers most s c) :
    r.Delivers fewer s c := by
  induction h with
  | ended stops => exact .ended fun size asked => stops size ⟨asked.1, by omega⟩
  | more gives goesOn ih =>
    exact .more (fun size asked => gives size ⟨asked.1, by omega⟩)
      fun size asked => ih size ⟨asked.1, by omega⟩

theorem truthy_of_ne_nil {bs : Bytes} (h : bs ≠ []) : (Value.bytes bs).truthy = true := by
  simpa using h

/-! ## Reading to the end -/

/-- One turn of draining: a piece goes in front of what the rest gives. -/
theorem drain_of_piece {size : Int} {bs : Bytes} (h : r.read size s = (.ok (.bytes bs), s'))
    (some : bs ≠ []) :
    r.drain size s = ⟨bs ++ (r.drain size s').data, (r.drain size s').fault,
      (r.drain size s').rest⟩ := by
  rw [drain]
  split
  · next f t hr => rw [hr] at h; exact absurd h (by simp)
  · next v t hr =>
    rw [h] at hr
    simp only [Prod.mk.injEq, Except.ok.injEq] at hr
    obtain ⟨rfl, rfl⟩ := hr
    rw [dif_pos (truthy_of_ne_nil some)]
    rfl

/-- Draining ends at the first answer that counts as nothing. -/
theorem drain_of_end {size : Int} {v : Value} (h : r.read size s = (.ok v, s'))
    (falsy : v.truthy = false) : r.drain size s = ⟨[], none, s'⟩ := by
  rw [drain]
  split
  · next f t hr => rw [hr] at h; exact absurd h (by simp)
  · next u t hr =>
    rw [h] at hr
    simp only [Prod.mk.injEq, Except.ok.injEq] at hr
    obtain ⟨rfl, rfl⟩ := hr
    rw [dif_neg (by rw [falsy]; exact Bool.false_ne_true)]

/-- Draining a stream that delivers `c` gives `c`. -/
theorem drain_of_delivers (h : r.Delivers most s c) {size : Int}
    (asked : 0 < size ∧ size ≤ most) :
    ∃ s', r.drain size s = ⟨c, none, s'⟩ ∧ r.Reads s s' := by
  induction h with
  | @ended s stops =>
    obtain ⟨v, hv, falsy⟩ := stops size asked
    have ends : r.read size s = (.ok v, (r.read size s).2) := Prod.ext hv rfl
    exact ⟨_, drain_of_end ends falsy, reads_of_read (reads_refl r _)⟩
  | @more s c gives goesOn ih =>
    obtain ⟨bs, hbs, some, rest, rfl⟩ := gives size asked
    obtain ⟨s', drained, reads⟩ := ih size asked bs hbs
    rw [List.drop_left] at drained
    have piece : r.read size s = (.ok (.bytes bs), (r.read size s).2) := Prod.ext hbs rfl
    refine ⟨s', ?_, reads_of_read reads⟩
    rw [drain_of_piece piece some, drained]

/-! ## Reading up to a limit -/

/-- One turn of collecting. -/
theorem collect_of_piece {chunk : Int} {missing : Nat} {bs : Bytes} (hm : missing ≠ 0)
    (h : r.read (min chunk missing) s = (.ok (.bytes bs), s')) (some : bs ≠ []) :
    r.collect chunk missing s =
      ⟨bs ++ (r.collect chunk (missing - bs.length) s').data,
        (r.collect chunk (missing - bs.length) s').fault,
        (r.collect chunk (missing - bs.length) s').rest⟩ := by
  rw [collect, if_neg hm]
  split
  · next f t hr => rw [hr] at h; exact absurd h (by simp)
  · next v t hr =>
    rw [h] at hr
    simp only [Prod.mk.injEq, Except.ok.injEq] at hr
    obtain ⟨rfl, rfl⟩ := hr
    rw [dif_pos (truthy_of_ne_nil some)]
    rfl

theorem collect_of_end {chunk : Int} {missing : Nat} {v : Value} (hm : missing ≠ 0)
    (h : r.read (min chunk missing) s = (.ok v, s')) (falsy : v.truthy = false) :
    r.collect chunk missing s = ⟨[], none, s'⟩ := by
  rw [collect, if_neg hm]
  split
  · next f t hr => rw [hr] at h; exact absurd h (by simp)
  · next u t hr =>
    rw [h] at hr
    simp only [Prod.mk.injEq, Except.ok.injEq] at hr
    obtain ⟨rfl, rfl⟩ := hr
    rw [dif_neg (by rw [falsy]; exact Bool.false_ne_true)]

/-- Collecting takes bytes from the front of `c` and stops only when enough are in hand or
nothing is left. -/
theorem collect_of_delivers (h : r.Delivers most s c) {chunk : Int}
    (within : 0 < chunk ∧ chunk ≤ most) (missing : Nat) :
    ∃ bs s', r.collect chunk missing s = ⟨bs, none, s'⟩ ∧ bs <+: c ∧
      min missing c.length ≤ bs.length ∧ r.Reads s s' := by
  induction h generalizing missing with
  | @ended s stops =>
    by_cases hm : missing = 0
    · exact ⟨[], s, by rw [collect, if_pos hm], List.nil_prefix, by simp, reads_refl r s⟩
    · obtain ⟨v, hv, falsy⟩ := stops (min chunk missing) (by omega)
      have ends : r.read (min chunk missing) s = (.ok v, (r.read (min chunk missing) s).2) :=
        Prod.ext hv rfl
      exact ⟨[], _, collect_of_end hm ends falsy, List.nil_prefix, by simp,
        reads_of_read (reads_refl r _)⟩
  | @more s c gives goesOn ih =>
    by_cases hm : missing = 0
    · exact ⟨[], s, by rw [collect, if_pos hm], List.nil_prefix, by simp [hm], reads_refl r s⟩
    · have asked : 0 < min chunk (missing : Int) ∧ min chunk (missing : Int) ≤ most := by omega
      obtain ⟨bs, hbs, some, rest, rfl⟩ := gives _ asked
      obtain ⟨more, s', collected, front, enough, reads⟩ :=
        ih _ asked bs hbs (missing - bs.length)
      rw [List.drop_left] at front enough
      have piece : r.read (min chunk missing) s =
          (.ok (.bytes bs), (r.read (min chunk missing) s).2) := Prod.ext hbs rfl
      refine ⟨bs ++ more, s', ?_, ?_, ?_, reads_of_read reads⟩
      · rw [collect_of_piece hm piece some, collected]
      · exact (List.prefix_append_right_inj bs).2 front
      · simp only [List.length_append]
        omega

/-- A bounded reading of a stream that delivers `c`: the first bytes of `c`, and whether there
are more. -/
theorem readBounded_of_delivers (h : r.Delivers most s c) {limit chunk : Int} (pos : 0 < limit)
    (within : 0 < chunk ∧ chunk ≤ most) :
    ∃ s', r.readBounded limit chunk s =
        (.ok ⟨c.take limit.toNat, decide (limit.toNat < c.length)⟩, s') ∧ r.Reads s s' := by
  obtain ⟨bs, s', collected, front, enough, reads⟩ :=
    collect_of_delivers h within (limit.toNat + 1)
  refine ⟨s', ?_, reads⟩
  have short : bs.length ≤ c.length := front.length_le
  have same : bs.take limit.toNat = c.take limit.toNat := by
    obtain ⟨rest, rfl⟩ := front
    by_cases all : limit.toNat ≤ bs.length
    · rw [List.take_append_of_le_length all]
    · have none : rest = [] := by
        rw [List.length_append] at enough
        exact List.length_eq_zero_iff.1 (by omega)
      rw [none, List.append_nil]
  have more : decide (limit.toNat < bs.length) = decide (limit.toNat < c.length) := by
    rw [decide_eq_decide]
    omega
  rw [readBounded, if_neg (by omega)]
  simp only [collected, same, more]

/-! ## Readers inside readers -/

section Embeds

variable {τ : Type} {r' : Reader τ} {f : σ → τ}

/-- On the states `f s` the reader `r'` does what `r` does on `s`. -/
structure Embeds (r : Reader σ) (r' : Reader τ) (f : σ → τ) : Prop where
  read : ∀ size s, r'.read size (f s) = ((r.read size s).1, f (r.read size s).2)
  close : ∀ s, r'.close (f s) = ((r.close s).1, f (r.close s).2)

theorem Delivers.embed (e : r.Embeds r' f) (h : r.Delivers most s c) :
    r'.Delivers most (f s) c := by
  induction h with
  | ended stops =>
    refine .ended fun size asked => ?_
    rw [e.read]
    exact stops size asked
  | more gives goesOn ih =>
    refine .more (fun size asked => ?_) fun size asked bs given => ?_
    · rw [e.read]
      exact gives size asked
    · rw [e.read] at given ⊢
      exact ih size asked bs given

theorem ClosesCleanly.embed (e : r.Embeds r' f) (h : r.ClosesCleanly s) :
    r'.ClosesCleanly (f s) := by
  intro t reads
  obtain ⟨s', rfl, reads'⟩ : ∃ s', t = f s' ∧ r.Reads s s' := by
    induction reads with
    | refl => exact ⟨s, rfl, reads_refl r s⟩
    | tail _ step ih =>
      obtain ⟨s', rfl, reads'⟩ := ih
      obtain ⟨size, rfl⟩ := step
      exact ⟨(r.read size s').2, by rw [e.read], reads'.tail ⟨size, rfl⟩⟩
  rw [e.close]
  exact h s' reads'

end Embeds

end Reader
end HttpTap
