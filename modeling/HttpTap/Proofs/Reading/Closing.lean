import HttpTap.Proofs.Reading.Chunks

/-!
# Reading and closing

Reading moves a stream on and does not close it.  Whatever a loop over a reader comes to, its end,
its limit or a fault, the reader is left in a state that reads lead to (`reads_drain`,
`reads_readBounded`), what was noted meanwhile is reads (`OnlyReads.reads`), and a stream that was open
is still open (`Tower.closed_reads`).

Closing is noted by a stand-in that has a close method, and by no other stream; afterwards every
stream is closed but a stand-in without the method (`Tower.calls_close`, `Tower.closed_close`).  A
stream over chunks that is closed leaves open what the chunks come from.
-/

namespace HttpTap

variable {σ φ : Type}

/-- Is the call a read? -/
def Call.IsRead : Call → Prop
  | .read .. => True
  | .close _ => False

/-- The later list of calls has nothing new but reads. -/
def OnlyReads (before after : List Call) : Prop :=
  ∃ reads, (∀ c ∈ reads, Call.IsRead c) ∧ after = reads ++ before

namespace OnlyReads

variable {a b c : List Call}

theorem refl (a : List Call) : OnlyReads a a := ⟨[], fun _ mem => absurd mem List.not_mem_nil, rfl⟩

theorem trans (h : OnlyReads a b) (h' : OnlyReads b c) : OnlyReads a c := by
  obtain ⟨reads, areReads, rfl⟩ := h
  obtain ⟨reads', areReads', rfl⟩ := h'
  refine ⟨reads' ++ reads, fun call mem => ?_, (List.append_assoc _ _ _).symm⟩
  exact (List.mem_append.1 mem).elim (areReads' call) (areReads call)

theorem cons {c : Call} (h : c.IsRead) (a : List Call) : OnlyReads a (c :: a) :=
  ⟨[c], fun _ mem => List.mem_singleton.1 mem ▸ h, rfl⟩

end OnlyReads

/-! ## Loops only read -/

namespace Reader

variable {r : Reader σ} {s s' : σ}

/-- The state after a read is one that reads lead to. -/
theorem reads_of_eq {size : Int} {answer : Except Fault Value} (h : r.read size s = (answer, s')) :
    r.Reads s s' := .single ⟨size, by rw [h]⟩

theorem reads_drain (r : Reader σ) (size : Int) (s : σ) : r.Reads s (r.drain size s).rest := by
  fun_induction r.drain size s with
  | case1 s f s' hr => exact reads_of_eq hr
  | case2 s v s' hr ht f bad => exact reads_of_eq hr
  | case3 s v s' hr ht bs good d ih => exact (reads_of_eq hr).trans ih
  | case4 s v s' hr hf => exact reads_of_eq hr

theorem reads_collect (r : Reader σ) (chunk : Int) (missing : Nat) (s : σ) :
    r.Reads s (r.collect chunk missing s).rest := by
  fun_induction r.collect chunk missing s with
  | case1 s => exact reads_refl r s
  | case2 missing s hm f s' hr => exact reads_of_eq hr
  | case3 missing s hm v s' hr ht f bad => exact reads_of_eq hr
  | case4 missing s hm v s' hr ht bs good d ih => exact (reads_of_eq hr).trans ih
  | case5 missing s hm v s' hr hf => exact reads_of_eq hr

theorem reads_readBounded (r : Reader σ) (limit chunk : Int) (s : σ) :
    r.Reads s (r.readBounded limit chunk s).2 := by
  have collected := reads_collect r chunk (limit.toNat + 1) s
  rw [Reader.readBounded]
  split
  · exact reads_refl r s
  · dsimp only
    split <;> exact collected

/-- A read is noted as a read, or not at all. -/
def NotesReads (r : Reader σ) : Prop := ∀ size s, OnlyReads (r.calls s) (r.calls (r.read size s).2)

end Reader

/-- Pulling a chunk is noted as reads, or not at all. -/
def Feed.NotesReads (F : Feed φ) : Prop := ∀ s, OnlyReads (F.calls s) (F.calls (F.pull s).2)

/-- Reads are noted as reads. -/
theorem OnlyReads.reads {r : Reader σ} (h : r.NotesReads) {s s' : σ} (reads : r.Reads s s') :
    OnlyReads (r.calls s) (r.calls s') := by
  induction reads with
  | refl => exact .refl _
  | @tail s₁ s₂ _ step ih =>
    obtain ⟨size, rfl⟩ := step
    exact ih.trans (h size s₁)

theorem OnlyReads.pulls {F : Feed φ} (h : F.NotesReads) {s s' : φ} (pulls : F.Pulls s s') :
    OnlyReads (F.calls s) (F.calls s') := by
  induction pulls with
  | refl => exact .refl _
  | @tail s₁ s₂ _ step ih =>
    subst step
    exact ih.trans (h s₁)

/-! ## Streams over chunks -/

namespace Feed

theorem notesReads_items : Feed.items.NotesReads := fun _ => .refl _

theorem notesReads_pieces {r : Reader σ} (h : r.NotesReads) : (Feed.pieces r).NotesReads :=
  fun s => .reads h (pulls_pieces (.single rfl) : r.Reads s.source _ ∧ _).1

end Feed

namespace Chunked

theorem closed_fill (F : Feed φ) (x : Chunked φ) : (fill F x).2.closed = x.closed := by
  fun_induction fill F x with
  | case4 x hp v s h bs hv ih => exact ih
  | _ => rfl

theorem closed_take (F : Feed φ) (n : Nat) (x : Chunked φ) :
    (take F n x).2.closed = x.closed := by
  have filled := closed_fill F x
  unfold take
  split
  · next f y h => rw [h] at filled; exact filled
  · next y h => rw [h] at filled; exact filled

theorem closed_takeAll (F : Feed φ) (x : Chunked φ) : (takeAll F x).2.closed = x.closed := by
  fun_induction takeAll F x with
  | case1 x f y h => have filled := closed_fill F x; rw [h] at filled; exact filled
  | case2 x y h hp => have filled := closed_fill F x; rw [h] at filled; exact filled
  | case3 x y h hp f z hr ih =>
    have filled := closed_fill F x
    rw [h] at filled
    rw [hr] at ih
    exact ih.trans filled
  | case4 x y h hp bs z hr ih =>
    have filled := closed_fill F x
    rw [h] at filled
    rw [hr] at ih
    exact ih.trans filled

theorem closed_read (F : Feed φ) (size : Int) (x : Chunked φ) :
    ((reader F).read size x).2.closed = x.closed := by
  show (read _ F size x).2.closed = _
  rw [read]
  split
  · rfl
  · show (answer F size x).2.closed = _
    rw [answer]
    split
    · exact closed_takeAll F x
    · exact closed_take F _ x

theorem notesReads {F : Feed φ} (h : F.NotesReads) : (reader F).NotesReads :=
  fun size _ => .pulls h (pulls_of_reaches (.single (.inl ⟨size, rfl⟩)))

end Chunked

/-! ## Towers -/

/-- Does the stream have a close method? -/
def Ground.closable : Ground → Bool
  | .standIn d => d.closable
  | _ => true

/-- What is noted when the stream is closed. -/
def Ground.closing : Ground → List Call
  | .standIn d => if d.closable then [.close d.name] else []
  | _ => []

/-- Does the topmost floor have a close method? -/
def Tower.closable : (n : Nat) → Tower n → Bool
  | 0 => Ground.closable
  | _ + 1 => fun _ => true

/-- What is noted when the topmost floor is closed. -/
def Tower.closing : (n : Nat) → Tower n → List Call
  | 0 => Ground.closing
  | _ + 1 => fun _ => []

/-- What closing depends on is the same of both. -/
structure Tower.SameLock (n : Nat) (s s' : Tower n) : Prop where
  closed : closed n s' = closed n s
  closable : closable n s' = closable n s
  closing : closing n s' = closing n s

namespace StandIn

theorem read_eq (size : Int) (d : StandIn) :
    ∃ script mark, (read size d).2 =
      { d with script := script, calls := .read d.name size mark :: d.calls } := by
  unfold read
  split
  · exact ⟨d.script, _, rfl⟩
  · exact ⟨_, _, rfl⟩

end StandIn

namespace Ground

theorem sameLock_read (size : Int) (g : Ground) :
    Tower.SameLock 0 g (reader.read size g).2 := by
  cases g with
  | memory m =>
    refine ⟨?_, rfl, rfl⟩
    show (Memory.read size m).2.closed = m.closed
    unfold Memory.read Memory.take
    split
    · split <;> rfl
    · rfl
  | standIn d =>
    obtain ⟨script, mark, after⟩ := StandIn.read_eq size d
    have moved : (reader.read size (standIn d)).2 =
        standIn { d with script := script, calls := .read d.name size mark :: d.calls } :=
      congrArg standIn after
    rw [moved]
    exact ⟨rfl, rfl, rfl⟩
  | items c => exact ⟨Chunked.closed_read .items size c, rfl, rfl⟩

theorem notesReads : reader.NotesReads := by
  intro size g
  cases g with
  | memory m => exact .refl _
  | standIn d =>
    obtain ⟨script, mark, after⟩ := StandIn.read_eq size d
    show OnlyReads d.calls (StandIn.read size d).2.calls
    rw [after]
    exact .cons (c := .read d.name size mark) trivial _
  | items c => exact .refl _

theorem closed_close {g : Ground} (closable : g.closable = true) :
    (reader.close g).2.closed = true := by
  cases g with
  | standIn d =>
    have has : d.closable = true := closable
    show (StandIn.close d).2.closed = true
    rw [StandIn.close, if_pos has]
    dsimp only
    split <;> rfl
  | _ => rfl

theorem calls_close (g : Ground) :
    reader.calls (reader.close g).2 = g.closing ++ reader.calls g := by
  cases g with
  | standIn d =>
    show (StandIn.close d).2.calls = (if d.closable then _ else _) ++ d.calls
    rw [StandIn.close]
    by_cases has : d.closable = true
    · rw [if_pos has, if_pos has]
      dsimp only
      split <;> rfl
    · rw [if_neg has, if_neg has]
      rfl
  | _ => rfl

end Ground

namespace Tower

variable {n : Nat} {s s' s'' : Tower n}

theorem SameLock.refl (s : Tower n) : SameLock n s s := ⟨rfl, rfl, rfl⟩

theorem SameLock.trans (h : SameLock n s s') (h' : SameLock n s' s'') : SameLock n s s'' :=
  ⟨h'.closed.trans h.closed, h'.closable.trans h.closable, h'.closing.trans h.closing⟩

theorem notesReads (n : Nat) : (reader n).NotesReads := by
  induction n with
  | zero => exact Ground.notesReads
  | succ n ih => exact Chunked.notesReads (Feed.notesReads_pieces ih)

/-- Reading a stream neither closes it nor changes what closing it will be. -/
theorem sameLock_reads (h : (reader n).Reads s s') : SameLock n s s' := by
  have step (size : Int) (s : Tower n) : SameLock n s ((reader n).read size s).2 := by
    cases n with
    | zero => exact Ground.sameLock_read size s
    | succ n => exact ⟨Chunked.closed_read (.pieces (reader n)) size s, rfl, rfl⟩
  induction h with
  | refl => exact .refl s
  | @tail s₁ s₂ _ last ih =>
    obtain ⟨size, rfl⟩ := last
    exact ih.trans (step size s₁)

theorem closed_close (n : Nat) {s : Tower n} (h : closable n s = true) :
    closed n ((reader n).close s).2 = true := by
  cases n with
  | zero => exact Ground.closed_close h
  | succ n => rfl

theorem calls_close (n : Nat) (s : Tower n) :
    (reader n).calls ((reader n).close s).2 = closing n s ++ (reader n).calls s := by
  cases n with
  | zero => exact Ground.calls_close s
  | succ n => rfl

/-- Nothing but a closing is noted when a stream is closed. -/
theorem eq_close_of_mem_closing {c : Call} (mem : c ∈ closing n s) : ∃ name, c = .close name := by
  cases n with
  | zero =>
    cases s with
    | standIn d =>
      have called : c ∈ if d.closable then [.close d.name] else [] := mem
      split at called
      · exact ⟨d.name, List.mem_singleton.1 called⟩
      · exact absurd called List.not_mem_nil
    | _ => exact absurd mem List.not_mem_nil
  | succ n => exact absurd mem List.not_mem_nil

end Tower
end HttpTap
