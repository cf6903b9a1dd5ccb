import HttpTap.Proofs.Entity.Offers
import HttpTap.Proofs.World.Spring

/-!
# Several readers of one entity

An entity that holds its bytes in memory may be opened by several readers, who take turns in any
order: one reads a little, another one opens the content, the first one reads on, a third closes.
`Act.serve` lets them do so, and `go_serve` says that none of them notices the others.  Each is
answered as if he had the bytes for himself (`Reader.replies`), and he has them all in the end
(`Memory.spells_replies`).

What keeps the readers apart is that every opening makes a stream and a source that were not there
before.  So the sources of the readers are all different, and a turn changes one source and nothing
else of what the readers have (`World.Attended`).
-/

namespace HttpTap

/-! ## Turns -/

/-- What is done with an opened stream. -/
inductive StreamUse where
  | read (size : Int)
  | close

/-- What the stream answers, and its state afterwards. -/
def StreamUse.on (u : StreamUse) {σ : Type} (r : Reader σ) (s : σ) : Except Fault Value × σ :=
  match u with
  | read size => r.read size s
  | close => ((r.close s).1.map fun _ => .null, (r.close s).2)

/-- What a stream answers that is used in this way and in no other. -/
def Reader.replies {σ : Type} (r : Reader σ) (s : σ) : List StreamUse → List (Except Fault Value)
  | [] => []
  | u :: us => (u.on r s).1 :: r.replies (u.on r s).2 us

/-- A turn of one of the readers of an entity, who are numbered as they open it. -/
inductive Turn where
  | opens
  | uses (reader : Nat) (use : StreamUse)

/-- What a reader did, and what he was answered. -/
structure Served where
  reader : Nat
  use : StreamUse
  answer : Except Fault Value

/-- What one of the readers did. -/
def usesOf (i : Nat) (log : List Served) : List StreamUse :=
  (log.filter fun x => x.reader == i).map Served.use

/-- What one of the readers was answered. -/
def answersOf (i : Nat) (log : List Served) : List (Except Fault Value) :=
  (log.filter fun x => x.reader == i).map Served.answer

/-- Let the readers of an entity take turns.  Those who have opened it already have the given
streams.  A reader who has not opened it yet does nothing. -/
def Act.serve (e : Ref Entity) (streams : List (Ref Stream)) : List Turn → Act (List Served)
  | [] => return []
  | .opens :: turns => do
    let r ← openContent e
    serve e (streams ++ [r]) turns
  | .uses i u :: turns =>
    match streams[i]? with
    | none => serve e streams turns
    | some r => do
      let answer ← observe (useStream r fun reader s => u.on reader s)
      let log ← serve e streams turns
      return ⟨i, u, answer⟩ :: log

/-! ## One reader on his own -/

/-- Somebody reads in pieces of these sizes, and is given bytes of `c` from the first one on.  Once
he has read more often than there are bytes, or as many bytes as there are at once, he has them
all. -/
def Spells (c : Bytes) (sizes : List Int) (answers : List (Except Fault Value)) : Prop :=
  ∃ pieces : List Bytes, answers = pieces.map (fun bs => .ok (.bytes bs)) ∧
    pieces.flatten <+: c ∧
    (c.length < sizes.length ∨ (∃ size ∈ sizes, size < 0 ∨ c.length ≤ size) → pieces.flatten = c)

/-- Bytes in memory are given piece by piece. -/
theorem Memory.spells_replies (c : Bytes) (sizes : List Int)
    (some : ∀ size ∈ sizes, size ≠ 0 ∧ isSize size = true) :
    Spells c sizes (reader.replies (ofBytes c) (sizes.map .read)) := by
  induction sizes generalizing c with
  | nil =>
    refine ⟨[], rfl, List.nil_prefix, fun enough => ?_⟩
    rcases enough with few | ⟨size, none, -⟩
    · exact absurd few (Nat.not_lt_zero _)
    · exact absurd none List.not_mem_nil
  | cons size sizes ih =>
    obtain ⟨asks, word⟩ := some size List.mem_cons_self
    obtain ⟨pieces, answered, ⟨rest, front⟩, all⟩ := ih (c.drop (share size c.length))
      fun n mem => some n (List.mem_cons_of_mem _ mem)
    refine ⟨c.take (share size c.length) :: pieces, ?_, ⟨rest, ?_⟩, fun enough => ?_⟩
    · have answer : reader.read size (ofBytes c) = _ :=
        (read_of_size word _).trans (take_open c size)
      rw [List.map_cons, List.map_cons, ← answered, Reader.replies, StreamUse.on, answer]
      rfl
    · rw [List.flatten_cons, List.append_assoc, front, List.take_append_drop]
    · rw [List.flatten_cons]
      by_cases done : c.drop (share size c.length) = []
      · have none : pieces.flatten = [] := by
          rw [done] at front
          exact (List.append_eq_nil_iff.1 front).1
        rw [none, List.append_nil]
        exact List.take_of_length_le (List.drop_eq_nil_iff.1 done)
      · -- something is left, so the first read gave less than there was
        have left : share size c.length < c.length :=
          Nat.lt_of_not_le fun le => done (List.drop_eq_nil_iff.2 le)
        have gave := share_pos asks (n := c.length) (by omega)
        rw [all ?_, List.take_append_drop]
        rw [List.length_drop]
        rcases enough with few | ⟨n, mem, large⟩
        · rw [List.length_cons] at few
          exact .inl (by omega)
        · rcases List.mem_cons.1 mem with rfl | later
          · have everything : share n c.length = c.length := by
              unfold share
              split <;> omega
            omega
          · refine .inr ⟨n, later, ?_⟩
            omega

/-! ## Several readers -/

/-- An opened stream and its source, and what the source is left with. -/
structure Attendance where
  stream : Ref Stream
  source : Ref Source
  state : Memory

namespace World

variable {w w' : World} {x y : Attendance} {e : Ref Entity} {c : Bytes} {t : Bool}
  {type encoding : Value}

/-- The stream reads its source, and the source is bytes in memory. -/
structure Attends (w : World) (x : Attendance) : Prop where
  opened : w.streams.Has x.stream
  direct : w.streams.get x.stream = .direct x.source
  made : w.sources.Has x.source
  state : w.sources.get x.source = ⟨0, Ground.memory x.state⟩

/-- The readers have their streams, and no two of them share a source. -/
structure Attended (w : World) (readers : List Attendance) : Prop where
  each : ∀ (i : Nat) (x : Attendance), readers[i]? = some x → w.Attends x
  apart : ∀ (i j : Nat) (x y : Attendance), readers[i]? = some x → readers[j]? = some y →
    x.source = y.source → i = j

theorem Attends.of_extends (h : w.Attends x) (streams : w.streams.Extends w'.streams)
    (sources : w.sources.Extends w'.sources) : w'.Attends x where
  opened := Nat.lt_of_lt_of_le h.opened streams.size_le
  direct := (streams.get_eq _ h.opened).trans h.direct
  made := Nat.lt_of_lt_of_le h.made sources.size_le
  state := (sources.get_eq _ h.made).trans h.state

theorem attended_nil (w : World) : w.Attended [] := ⟨by simp, by simp⟩

/-- One more reader opens a source of his own. -/
theorem attended_openSource {readers : List Attendance} (h : w.Attended readers) (c : Bytes) :
    (Act.go (Act.openSource (.ofBytes c)) w).2.Attended
      (readers ++ [⟨w.streams.next, w.sources.next, Memory.ofBytes c⟩]) := by
  have one_of {i : Nat} {x : Attendance} (at_i : (readers ++
      [⟨w.streams.next, w.sources.next, Memory.ofBytes c⟩])[i]? = some x) :
      (readers[i]? = some x ∧ x.source ≠ w.sources.next) ∨
        (i = readers.length ∧ x = ⟨w.streams.next, w.sources.next, Memory.ofBytes c⟩) := by
    rcases Nat.lt_trichotomy i readers.length with old | rfl | beyond
    · rw [List.getElem?_append_left old] at at_i
      refine .inl ⟨at_i, fun same => ?_⟩
      have there := (h.each i x at_i).made
      rw [same] at there
      exact Store.not_has_next _ there
    · rw [List.getElem?_concat_length] at at_i
      exact .inr ⟨rfl, (Option.some.inj at_i).symm⟩
    · rw [List.getElem?_eq_none (by simp; omega)] at at_i
      cases at_i
  refine ⟨fun i x at_i => ?_, fun i j x y at_i at_j same => ?_⟩
  · rcases one_of at_i with ⟨old, -⟩ | ⟨-, rfl⟩
    · exact (h.each i x old).of_extends (Store.extends_alloc _ _) (Store.extends_alloc _ _)
    · exact ⟨Nat.lt_succ_self _, Store.get_alloc_same _ _, Nat.lt_succ_self _,
        Store.get_alloc_same _ _⟩
  · rcases one_of at_i with ⟨old_i, other_i⟩ | ⟨rfl, rfl⟩
    · rcases one_of at_j with ⟨old_j, -⟩ | ⟨-, rfl⟩
      · exact h.apart i j x y old_i old_j same
      · exact absurd same other_i
    · rcases one_of at_j with ⟨-, other_j⟩ | ⟨rfl, -⟩
      · exact absurd same.symm other_j
      · rfl

/-- Using a ground floor of bytes is using the bytes. -/
theorem on_memory (u : StreamUse) (m : Memory) :
    u.on (Tower.reader 0) (Ground.memory m) =
      ((u.on Memory.reader m).1, Ground.memory (u.on Memory.reader m).2) := by
  cases u <;> rfl

/-- A reader uses his stream, and his source is the only thing that changes. -/
theorem go_useStream_of_attends (h : w.Attends x) (u : StreamUse) :
    ∃ w', Act.go (Act.observe (Act.useStream x.stream fun reader s => u.on reader s)) w =
        (.ok (u.on Memory.reader x.state).1, w') ∧
      w'.entities = w.entities ∧ w'.streams = w.streams ∧
      w'.sources =
        w.sources.set x.source ⟨0, Ground.memory (u.on Memory.reader x.state).2⟩ := by
  have opened : w.opened x.stream = w.onItsOwn x.source := by
    rw [World.opened, h.direct]
    rfl
  rw [onItsOwn_of_get h.state] at opened
  have used : w.onStream x.stream (fun reader s => u.on reader s) = _ :=
    onStream_of_opened opened (on_memory u x.state)
  have ran : Act.go (Act.observe (Act.useStream x.stream fun reader s => u.on reader s)) w =
      (.ok (w.onStream x.stream fun reader s => u.on reader s).1,
        (w.onStream x.stream fun reader s => u.on reader s).2) := rfl
  rw [ran, used]
  exact ⟨_, rfl, rfl, rfl, rfl⟩

/-- A source was changed; what a reader has afterwards depends on what his own source is now. -/
theorem Attends.of_set (h : w.Attends x) {q : Ref Source} {s : Source} {m : Memory}
    (streams : w'.streams = w.streams) (sources : w'.sources = w.sources.set q s)
    (state : (w.sources.set q s).get x.source = ⟨0, Ground.memory m⟩) :
    w'.Attends { x with state := m } where
  opened := by
    rw [streams]
    exact h.opened
  direct := by
    rw [streams]
    exact h.direct
  made := by
    rw [sources]
    exact h.made
  state := by
    rw [sources]
    exact state

/-- The other readers do not notice, and the one whose turn it was has gone on. -/
theorem Attended.use {readers : List Attendance} {i : Nat} (h : w.Attended readers)
    (here : readers[i]? = some x) {m : Memory} (streams : w'.streams = w.streams)
    (sources : w'.sources = w.sources.set x.source ⟨0, Ground.memory m⟩) :
    w'.Attended (readers.set i { x with state := m }) := by
  have one_of {j : Nat} {y : Attendance}
      (at_j : (readers.set i { x with state := m })[j]? = some y) :
      (j = i ∧ y = { x with state := m }) ∨ (j ≠ i ∧ readers[j]? = some y) := by
    by_cases same : j = i
    · subst same
      have short : j < readers.length := (List.getElem?_eq_some_iff.1 here).1
      rw [List.getElem?_set_self short] at at_j
      exact .inl ⟨rfl, (Option.some.inj at_j).symm⟩
    · rw [List.getElem?_set_ne (Ne.symm same)] at at_j
      exact .inr ⟨same, at_j⟩
  refine ⟨fun j y at_j => ?_, fun j k y z at_j at_k same => ?_⟩
  · rcases one_of at_j with ⟨rfl, rfl⟩ | ⟨other, there⟩
    · exact (h.each j x here).of_set streams sources (Store.get_set_same _ _ _)
    · have unlike : y.source ≠ x.source := fun same => other (h.apart j i y x there here same)
      have still := h.each j y there
      exact still.of_set streams sources ((Store.get_set_other unlike _).trans still.state)
  · rcases one_of at_j with ⟨rfl, rfl⟩ | ⟨-, there_j⟩
    · rcases one_of at_k with ⟨rfl, -⟩ | ⟨-, there_k⟩
      · rfl
      · exact h.apart j k x z here there_k same
    · rcases one_of at_k with ⟨rfl, rfl⟩ | ⟨-, there_k⟩
      · exact h.apart j k y x there_j here same
      · exact h.apart j k y z there_j there_k same

/-- What a reader has in hand: the bytes that are left, or all of them if he has yet to open. -/
def inHand (c : Bytes) (readers : List Attendance) (i : Nat) : Memory :=
  (readers[i]?.map Attendance.state).getD (Memory.ofBytes c)

theorem inHand_openSource (c : Bytes) (readers : List Attendance) (stream : Ref Stream)
    (source : Ref Source) (i : Nat) :
    inHand c (readers ++ [⟨stream, source, Memory.ofBytes c⟩]) i = inHand c readers i := by
  unfold inHand
  rcases Nat.lt_trichotomy i readers.length with old | rfl | beyond
  · rw [List.getElem?_append_left old]
  · rw [List.getElem?_concat_length, List.getElem?_eq_none (Nat.le_refl _)]
    rfl
  · rw [List.getElem?_eq_none (by simp; omega), List.getElem?_eq_none (Nat.le_of_lt beyond)]

theorem inHand_of_get {readers : List Attendance} {i : Nat} (here : readers[i]? = some x) :
    inHand c readers i = x.state := by
  rw [inHand, here]
  rfl

theorem inHand_set_same {readers : List Attendance} {i : Nat} (here : readers[i]? = some x)
    (y : Attendance) : inHand c (readers.set i y) i = y.state := by
  have short : i < readers.length := (List.getElem?_eq_some_iff.1 here).1
  exact inHand_of_get (List.getElem?_set_self short)

theorem inHand_set_other {readers : List Attendance} {i j : Nat} (other : i ≠ j) (y : Attendance) :
    inHand c (readers.set i y) j = inHand c readers j := by
  rw [inHand, List.getElem?_set_ne other, inHand]

/-- A reader who goes on keeps his stream. -/
theorem map_stream_set {readers : List Attendance} {i : Nat} (here : readers[i]? = some x)
    (m : Memory) : (readers.set i { x with state := m }).map Attendance.stream =
      readers.map Attendance.stream := by
  refine List.ext_getElem? fun j => ?_
  rw [List.getElem?_map, List.getElem?_map]
  by_cases same : i = j
  · subst same
    have short : i < readers.length := (List.getElem?_eq_some_iff.1 here).1
    rw [List.getElem?_set_self short, here]
    rfl
  · rw [List.getElem?_set_ne same]

end World

/-! ### The log -/

section Log

variable {i j : Nat} {u : StreamUse} {answer : Except Fault Value} {log : List Served}

theorem usesOf_cons_same : usesOf i (⟨i, u, answer⟩ :: log) = u :: usesOf i log := by
  simp [usesOf]

theorem usesOf_cons_other (other : i ≠ j) : usesOf j (⟨i, u, answer⟩ :: log) = usesOf j log := by
  simp [usesOf, other]

theorem answersOf_cons_same :
    answersOf i (⟨i, u, answer⟩ :: log) = answer :: answersOf i log := by
  simp [answersOf]

theorem answersOf_cons_other (other : i ≠ j) :
    answersOf j (⟨i, u, answer⟩ :: log) = answersOf j log := by
  simp [answersOf, other]

end Log

namespace Act

open World

variable {w : World} {e : Ref Entity} {c : Bytes} {t : Bool} {type encoding : Value}

/-- Whatever turns they take, each reader is answered as if he had the bytes for himself, and the
entity stays as it is. -/
theorem go_serve (hx : w.entities.get e = .stored t c type encoding) {readers : List Attendance}
    (h : w.Attended readers) (turns : List Turn) :
    ∃ log w', go (serve e (readers.map Attendance.stream) turns) w = (.ok log, w') ∧
      w'.entities = w.entities ∧
      ∀ i, answersOf i log = Memory.reader.replies (inHand c readers i) (usesOf i log) := by
  induction turns generalizing w readers with
  | nil => exact ⟨[], w, rfl, rfl, fun _ => rfl⟩
  | cons turn turns ih =>
    cases turn with
    | opens =>
      have opened : go (openContent e) w =
          (.ok w.streams.next, (go (openSource (.ofBytes c)) w).2) := by
        rw [go_openContent_stored hx]
        rfl
      obtain ⟨log, w', served, same, answers⟩ := ih (w := (go (openSource (.ofBytes c)) w).2) hx
        (attended_openSource h c)
      refine ⟨log, w', ?_, same, fun i => ?_⟩
      · rw [serve, go_bind_of_ok opened, ← served, List.map_append]
        rfl
      · rw [answers i, inHand_openSource]
    | uses i u =>
      rw [serve, List.getElem?_map]
      cases here : readers[i]? with
      | none => exact ih hx h
      | some x =>
        obtain ⟨w₁, used, same₁, streams, sources⟩ := go_useStream_of_attends (h.each i x here) u
        have hx₁ : w₁.entities.get e = .stored t c type encoding := by rw [same₁, hx]
        obtain ⟨log, w', served, same, answers⟩ := ih hx₁ (h.use here streams sources)
        rw [map_stream_set here] at served
        refine ⟨⟨i, u, (u.on Memory.reader x.state).1⟩ :: log, w', ?_, same.trans same₁,
          fun j => ?_⟩
        · show go (do
            let answer ← observe (useStream x.stream fun reader s => u.on reader s)
            let log ← serve e (readers.map Attendance.stream) turns
            return ⟨i, u, answer⟩ :: log) w = _
          rw [go_bind_of_ok used, go_bind_of_ok served]
          rfl
        · by_cases turn : i = j
          · subst turn
            rw [answersOf_cons_same, usesOf_cons_same, answers i, inHand_set_same here,
              inHand_of_get here]
            rfl
          · rw [answersOf_cons_other turn, usesOf_cons_other turn, answers j, inHand_set_other turn]

end Act
end HttpTap
