import HttpTap.Proofs.Reading.Ground
import HttpTap.Stream.Plan
import HttpTap.World.Streams

/-!
# Streams that raise no interrupts

Every guard of the library lets interrupts through and contains all other faults (`Contained`).  A
stream is *calm* if no read and no closing of it ends in an interrupt, now or after any further use
(`Reader.Calm`).

* Reading a calm stream to its end or up to a limit ends in no interrupt either, and leaves a calm
  stream behind (`Calm.drain`, `Calm.readBounded`).
* A stream over chunks is calm if its supply is (`Chunked.calm`); what the chunks hold does not
  matter, since a chunk that spells no bytes is a fault of the contained sort.
* A tower is calm if its ground floor is (`Source.calm_inPieces`).
-/

namespace HttpTap

/-- A result with the property, or a fault that every guard contains. -/
def Contained {α : Type} (Q : α → Prop) : Except Fault α → Prop
  | .ok x => Q x
  | .error f => f.interrupts = false

namespace Contained

variable {α β : Type} {Q : α → Prop} {S : β → Prop}

theorem mono {r : Except Fault α} {Q' : α → Prop} (h : Contained Q r) (weaker : ∀ x, Q x → Q' x) :
    Contained Q' r := by
  cases r with
  | ok x => exact weaker x h
  | error f => exact h

theorem bind {r : Except Fault α} {f : α → Except Fault β} (h : Contained Q r)
    (hf : ∀ x, Q x → Contained S (f x)) : Contained S (r >>= f) := by
  cases r with
  | ok x => exact hf x h
  | error e => exact h

theorem map {r : Except Fault α} {f : α → β} (h : Contained Q r) (hf : ∀ x, Q x → S (f x)) :
    Contained S (r.map f) := by
  cases r with
  | ok x => exact hf x h
  | error e => exact h

end Contained

/-- No fault in the list of items is an interrupt. -/
def CalmItems (is : List Item) : Prop := ∀ i ∈ is, Contained (fun _ => True) i

/-- A generator gives no item that was not there. -/
theorem calmItems_generated {is : List Item} (h : CalmItems is) : CalmItems (generated is) := by
  induction is with
  | nil => exact h
  | cons i is ih =>
    cases i with
    | ok v =>
      intro j mem
      rcases List.mem_cons.1 mem with rfl | later
      · exact trivial
      · exact ih (fun i mem => h i (List.mem_cons_of_mem _ mem)) j later
    | error f =>
      intro j mem
      obtain rfl := List.mem_singleton.1 mem
      exact h _ List.mem_cons_self

/-! ## Values that are no bytes -/

namespace Value

theorem appendable_contained (v : Value) : Contained (fun _ => True) v.appendable := by
  cases v <;> trivial

theorem toByte_contained (v : Value) : Contained (fun _ => True) v.toByte := by
  unfold toByte
  split
  · split
    · trivial
    · exact rfl
  · exact rfl

theorem elementBytes_contained (vs : List Value) : Contained (fun _ => True) (elementBytes vs) := by
  unfold elementBytes
  induction vs with
  | nil => trivial
  | cons v vs ih =>
    rw [List.mapM_cons]
    refine v.toByte_contained.bind fun b _ => ?_
    exact ih.bind fun bs _ => trivial

theorem zeroBytes_contained (n : Int) : Contained (fun _ => True) (zeroBytes n) := by
  unfold zeroBytes
  split
  · exact rfl
  · split
    · exact rfl
    · split
      · exact rfl
      · trivial

theorem toBytes_contained (v : Value) : Contained (fun _ => True) v.toBytes := by
  cases v with
  | int n => exact zeroBytes_contained n
  | list vs => exact elementBytes_contained vs
  | tuple vs => exact elementBytes_contained vs
  | set vs => exact elementBytes_contained vs
  | dict es => exact elementBytes_contained _
  | _ => trivial

end Value

/-! ## Readers -/

namespace Reader

variable {σ : Type} {r : Reader σ} {s s' : σ}

/-- No fault of the stream is an interrupt, now or after any reads and closings. -/
def Calm (r : Reader σ) (s : σ) : Prop :=
  ∀ s', r.Reaches s s' →
    (∀ size, Contained (fun _ => True) (r.read size s').1) ∧
      Contained (fun _ => True) (r.close s').1

theorem Calm.later (h : r.Calm s) (reached : r.Reaches s s') : r.Calm s' :=
  fun _ further => h _ (reached.trans further)

theorem reaches_refl (r : Reader σ) (s : σ) : r.Reaches s s := Relation.ReflTransGen.refl

theorem reaches_read (r : Reader σ) (size : Int) (s : σ) : r.Reaches s (r.read size s).2 :=
  Relation.ReflTransGen.single (Or.inl ⟨size, rfl⟩)

theorem reaches_close (r : Reader σ) (s : σ) : r.Reaches s (r.close s).2 :=
  Relation.ReflTransGen.single (Or.inr rfl)

theorem Calm.read (h : r.Calm s) (size : Int) : Contained (fun _ => True) (r.read size s).1 :=
  (h s (reaches_refl r s)).1 size

theorem Calm.close (h : r.Calm s) : Contained (fun _ => True) (r.close s).1 :=
  (h s (reaches_refl r s)).2

/-- To find a stream calm it is enough to find a property that a calm stream keeps. -/
theorem Calm.of_invariant (I : σ → Prop) (start : I s)
    (read : ∀ s, I s → ∀ size, I (r.read size s).2 ∧ Contained (fun _ => True) (r.read size s).1)
    (close : ∀ s, I s → I (r.close s).2 ∧ Contained (fun _ => True) (r.close s).1) :
    r.Calm s := by
  intro s' reached
  have kept : I s' := by
    induction reached with
    | refl => exact start
    | @tail s₁ s₂ _ step ih =>
      rcases step with ⟨size, rfl⟩ | rfl
      · exact (read s₁ ih size).1
      · exact (close s₁ ih).1
  exact ⟨fun size => (read s' kept size).2, (close s' kept).2⟩

/-! ### Loops -/

/-- Reading a calm stream to its end raises no interrupt. -/
theorem Calm.drain (h : r.Calm s) (size : Int) :
    r.Reaches s (r.drain size s).rest ∧
      ∀ f, (r.drain size s).fault = some f → f.interrupts = false := by
  fun_induction r.drain size s with
  | case1 s f s' hr =>
    have reached := reaches_read r size s
    have contained := h.read size
    rw [hr] at reached contained
    refine ⟨reached, ?_⟩
    rintro f' ⟨⟩
    exact contained
  | case2 s v s' hr ht f bad =>
    have reached := reaches_read r size s
    have contained := v.appendable_contained
    rw [hr] at reached
    rw [bad] at contained
    refine ⟨reached, ?_⟩
    rintro f' ⟨⟩
    exact contained
  | case3 s v s' hr ht bs good d ih =>
    have reached := reaches_read r size s
    rw [hr] at reached
    obtain ⟨later, faults⟩ := ih (h.later reached)
    exact ⟨reached.trans later, faults⟩
  | case4 s v s' hr hf =>
    have reached := reaches_read r size s
    rw [hr] at reached
    exact ⟨reached, by simp⟩

/-- The same for collecting up to a size. -/
theorem Calm.collect (h : r.Calm s) (chunk : Int) (missing : Nat) :
    r.Reaches s (r.collect chunk missing s).rest ∧
      ∀ f, (r.collect chunk missing s).fault = some f → f.interrupts = false := by
  fun_induction r.collect chunk missing s with
  | case1 s => exact ⟨reaches_refl r s, by simp⟩
  | case2 missing s hm f s' hr =>
    have reached := reaches_read r (min chunk missing) s
    have contained := h.read (min chunk missing)
    rw [hr] at reached contained
    refine ⟨reached, ?_⟩
    rintro f' ⟨⟩
    exact contained
  | case3 missing s hm v s' hr ht f bad =>
    have reached := reaches_read r (min chunk missing) s
    have contained := v.appendable_contained
    rw [hr] at reached
    rw [bad] at contained
    refine ⟨reached, ?_⟩
    rintro f' ⟨⟩
    exact contained
  | case4 missing s hm v s' hr ht bs good d ih =>
    have reached := reaches_read r (min chunk missing) s
    rw [hr] at reached
    obtain ⟨later, faults⟩ := ih (h.later reached)
    exact ⟨reached.trans later, faults⟩
  | case5 missing s hm v s' hr hf =>
    have reached := reaches_read r (min chunk missing) s
    rw [hr] at reached
    exact ⟨reached, by simp⟩

theorem Calm.readBounded (h : r.Calm s) (limit chunk : Int) :
    r.Reaches s (r.readBounded limit chunk s).2 ∧
      Contained (fun _ => True) (r.readBounded limit chunk s).1 := by
  obtain ⟨reached, faults⟩ := h.collect chunk (limit.toNat + 1)
  rw [Reader.readBounded]
  split
  · exact ⟨reaches_refl r s, interrupts_limitFault limit⟩
  · dsimp only
    split
    · next f hf => exact ⟨reached, faults f hf⟩
    · exact ⟨reached, trivial⟩

/-- A stream that is not there is calm if its fault is no interrupt. -/
theorem calm_missing {f : Fault} (contained : f.interrupts = false) :
    (missing f).Calm () :=
  Calm.of_invariant (fun _ => True) trivial (fun _ _ _ => ⟨trivial, contained⟩)
    fun _ _ => ⟨trivial, trivial⟩

/-- A reader inside a reader is as calm as the reader is. -/
theorem Calm.embed {τ : Type} {r' : Reader τ} {f : σ → τ} (e : r.Embeds r' f) (h : r.Calm s) :
    r'.Calm (f s) := by
  refine .of_invariant (fun t => ∃ s', t = f s' ∧ r.Calm s') ⟨s, rfl, h⟩ ?_ ?_
  · rintro t ⟨s', rfl, calm⟩ size
    rw [e.read]
    exact ⟨⟨_, rfl, calm.later (reaches_read r size s')⟩, calm.read size⟩
  · rintro t ⟨s', rfl, calm⟩
    rw [e.close]
    exact ⟨⟨_, rfl, calm.later (reaches_close r s')⟩, calm.close⟩

end Reader

/-! ## Streams over chunks -/

/-- No fault of the supply is an interrupt, now or after any pulls. -/
def Feed.Calm {φ : Type} (F : Feed φ) (s : φ) : Prop :=
  ∀ s', F.Pulls s s' → Contained (fun _ => True) (F.pull s').1

namespace Feed

variable {φ σ : Type} {F : Feed φ} {s s' : φ}

theorem Calm.later (h : F.Calm s) (pulls : F.Pulls s s') : F.Calm s' :=
  fun _ further => h _ (pulls.trans further)

theorem Calm.pull (h : F.Calm s) : Contained (fun _ => True) (F.pull s).1 :=
  h s Relation.ReflTransGen.refl

/-- Pulling an item leaves the items after it. -/
theorem calmItems_pull {is : List Item} (h : CalmItems is) :
    CalmItems (Feed.items.pull is).2 ∧ Contained (fun _ => True) (Feed.items.pull is).1 := by
  match is with
  | [] => exact ⟨h, trivial⟩
  | .ok v :: is => exact ⟨fun i mem => h i (List.mem_cons_of_mem _ mem), trivial⟩
  | .error f :: is => exact ⟨fun i mem => h i (List.mem_cons_of_mem _ mem), h _ List.mem_cons_self⟩

theorem calmItems_pulls {is is' : List Item} (h : CalmItems is) (pulls : Feed.items.Pulls is is') :
    CalmItems is' := by
  induction pulls with
  | refl => exact h
  | tail _ step ih =>
    subst step
    exact (calmItems_pull ih).1

theorem calm_items {is : List Item} (h : CalmItems is) : Feed.items.Calm is :=
  fun _ pulls => (calmItems_pull (calmItems_pulls h pulls)).2

/-- The pieces of a calm stream are a calm supply. -/
theorem calm_pieces {r : Reader σ} {x : Pulling σ} (h : r.Calm x.source) :
    (Feed.pieces r).Calm x := by
  intro y pulls
  have calm := h.later (pulls_pieces pulls).1.reaches
  have contained := calm.read y.size
  simp only [Feed.pieces]
  split
  · split
    · next f rest hr =>
      rw [hr] at contained
      exact contained
    · split <;> trivial
  · trivial

end Feed

namespace Chunked

variable {φ : Type} {F : Feed φ}

theorem fill_contained {x : Chunked φ} (h : F.Calm x.feed) :
    Contained (fun _ => True) (fill F x).1 := by
  fun_induction fill F x with
  | case1 x hp f s hr =>
    have contained := h.pull
    rw [hr] at contained
    exact contained
  | case2 x hp s hr => trivial
  | case3 x hp v s hr f bad =>
    have contained := v.toBytes_contained
    rw [bad] at contained
    exact contained
  | case4 x hp v s hr bs good ih => exact ih (h.later (.single (by rw [hr])))
  | case5 x hp => trivial

theorem take_contained {x : Chunked φ} (h : F.Calm x.feed) (n : Nat) :
    Contained (fun _ => True) (take F n x).1 := by
  have filled := fill_contained h
  unfold take
  split
  · next f y hy => rw [hy] at filled; exact filled
  · trivial

theorem takeAll_contained {x : Chunked φ} (h : F.Calm x.feed) :
    Contained (fun _ => True) (takeAll F x).1 := by
  fun_induction takeAll F x with
  | case1 x f y hy => have filled := fill_contained h; rw [hy] at filled; exact filled
  | case2 x y hy hp => trivial
  | case3 x y hy hp f z hz ih =>
    have pulls := pulls_fill F x
    rw [hy] at pulls
    have rest := ih (h.later pulls)
    rw [hz] at rest
    exact rest
  | case4 x y hy hp bs z hz ih => trivial

/-- A stream over chunks is as calm as its supply. -/
theorem calm {x : Chunked φ} (h : F.Calm x.feed) : (reader F).Calm x := by
  intro y reached
  have later := h.later (pulls_of_reaches reached)
  refine ⟨fun size => ?_, trivial⟩
  show Contained _ (read _ F size y).1
  rw [read]
  split
  · next f refused => exact interrupts_of_refusal refused
  · refine Contained.map (Q := fun _ => True) ?_ fun _ _ => trivial
    rw [answer]
    split
    · exact takeAll_contained later
    · exact take_contained later _

end Chunked

/-! ## Sources -/

theorem Memory.calm (m : Memory) : Memory.reader.Calm m := by
  refine .of_invariant (fun _ => True) trivial (fun m _ size => ⟨trivial, ?_⟩)
    fun _ _ => ⟨trivial, trivial⟩
  show Contained _ (Memory.read size m).1
  unfold Memory.read Memory.take
  split
  · split
    · exact rfl
    · trivial
  · exact rfl

namespace Script

/-- No fault of the script is an interrupt. -/
def Calm : Script → Prop
  | data _ _ atEnd => ∀ f, atEnd = some f → f.interrupts = false
  | answers is => CalmItems is

theorem Calm.read {s : Script} (h : s.Calm) (size : Int) :
    (s.read size).2.Calm ∧ Contained (fun _ => True) (s.read size).1 := by
  cases s with
  | data rest most atEnd =>
    simp only [Script.read, readData]
    split
    · exact ⟨h, h _ rfl⟩
    · exact ⟨h, trivial⟩
  | answers is =>
    cases is with
    | nil => exact ⟨h, trivial⟩
    | cons i is =>
      exact ⟨fun j mem => h j (List.mem_cons_of_mem _ mem), h i List.mem_cons_self⟩

end Script

/-- No fault that the stand-in was told to raise is an interrupt. -/
structure StandIn.Calm (d : StandIn) : Prop where
  script : d.script.Calm
  close : ∀ f, d.closeFault = some f → f.interrupts = false

theorem StandIn.calm {d : StandIn} (h : d.Calm) : StandIn.reader.Calm d := by
  refine .of_invariant StandIn.Calm h (fun d h size => ?_) fun d h => ?_
  · show (StandIn.read size d).2.Calm ∧ Contained _ (StandIn.read size d).1
    unfold StandIn.read
    split
    · exact ⟨⟨h.script, h.close⟩, rfl⟩
    · obtain ⟨script, contained⟩ := h.script.read size
      exact ⟨⟨script, h.close⟩, contained⟩
  · show (StandIn.close d).2.Calm ∧ Contained _ (StandIn.close d).1
    unfold StandIn.close
    split
    · dsimp only
      split
      · next f hf => exact ⟨⟨h.script, h.close⟩, h.close f hf⟩
      · exact ⟨⟨h.script, h.close⟩, trivial⟩
    · exact ⟨h, rfl⟩

/-- No fault of the source is an interrupt. -/
def Source.Calm (s : Source) : Prop := (Tower.reader s.floors).Calm s.state

namespace Source

theorem calm_ofBytes (bs : Bytes) : (ofBytes bs).Calm :=
  (Memory.calm _).embed Ground.embeds_memory

theorem calm_ofStandIn {d : StandIn} (h : d.Calm) : (ofStandIn d).Calm :=
  (StandIn.calm h).embed Ground.embeds_standIn

theorem calm_ofItems {is : List Item} (h : CalmItems is) : (ofItems is).Calm :=
  (Chunked.calm (x := Chunked.ofFeed is) (Feed.calm_items h)).embed Ground.embeds_items

/-- Another floor raises no interrupts of its own. -/
theorem calm_inPieces {s : Source} (h : s.Calm) (size : Int) : (s.inPieces size).Calm :=
  Chunked.calm (F := .pieces (Tower.reader s.floors))
    (x := Chunked.ofFeed ⟨s.state, size, .live⟩) (Feed.calm_pieces h)

end Source

/-! ## Plans -/

namespace StreamPlan

/-- No fault of a stream made after the plan is an interrupt. -/
def Calm : StreamPlan → Prop
  | standIn script closeFault _ =>
    script.Calm ∧ ∀ f, closeFault = some f → f.interrupts = false
  | chunks is => CalmItems is
  | file inner _ => inner.Calm

theorem Calm.build {p : StreamPlan} (h : p.Calm) (name : String) : (p.build name).Calm := by
  induction p with
  | standIn script closeFault closable => exact Source.calm_ofStandIn ⟨h.1, h.2⟩
  | chunks is => exact Source.calm_ofItems (calmItems_generated h)
  | file inner size ih => exact Source.calm_inPieces (ih h) size

end StreamPlan
end HttpTap
