import HttpTap.Proofs.Entity.Opening
import Mathlib.Data.List.Nodup

/-!
# Streams on loan

A stream that an entity has opened is on loan, and a loan has an end: the stream is read, any number
of times and with whatever answers, and then it is closed, once (`Loan`).  A world is reached from
another one by `World.Lending` when nothing has happened to streams on the way but loans, one after
the other, and openings that were refused.

A chain of loans says all that can be observed about the streams.

* The stream of every loan has noted reads, then its closing if it notes such a thing, and it is
  closed (`Loan.returned`).
* No stand-in was closed but the ones on loan, each of them once (`Lending.closings`).
* A single entity and copies of it lend no stream twice (`Lending.nodup`).
* A source is as open as it was, if none of the loans was the source itself (`Lending.leavesOpen`).
-/

namespace HttpTap
namespace World

open Act

/-- Nothing has happened to any stream.  What streams are put together from is as it was, no
stand-in has noted anything, and entities may have been made but none has changed, stand-ins
apart. -/
structure Still (w w' : World) : Prop where
  streams : w'.streams = w.streams
  sources : w'.sources = w.sources
  iterators : w'.iterators = w.iterators
  responses : w'.responses = w.responses
  trace : w'.trace = w.trace
  entities : ∀ e, w.entities.Has e →
    w'.entities.Has e ∧ (w'.entities.get e).own? = (w.entities.get e).own?

/-- The entity is there and holds bytes in memory. -/
structure IsCopy (w : World) (e : Ref Entity) : Prop where
  has : w.entities.Has e
  stored : ∃ content type encoding, w.entities.get e = .stored false content type encoding

end World

open Act World

/-- A stream on loan: an entity has opened it, and it was read until it was closed. -/
structure Loan where
  entity : Ref Entity
  stream : Ref Stream
  /-- The world in which the entity is opened. -/
  before : World
  /-- The world with the opened stream. -/
  opened : World
  /-- The world after the last read. -/
  used : World
  opens : go (openContent entity) before = (.ok stream, opened)
  reads : ReadFrom stream opened used

namespace Loan

/-- The world after the stream was closed. -/
def after (l : Loan) : World := (go (closeStream l.stream) l.used).2

/-- What is noted when the stream is closed. -/
def closing (l : Loan) : List Event := l.opened.closing l.stream

/-- The stream was given back: its closing is the last thing that was noted, after nothing but
reads, and it is closed if it has a close method. -/
structure Returned (l : Loan) : Prop where
  noted : ∃ reads, (∀ x ∈ reads, Event.IsRead x) ∧
    l.after.trace = l.closing ++ reads ++ l.opened.trace
  closed : l.opened.closable l.stream = true → l.after.isClosed l.stream = true

/-- The loan is one of the entity or of a copy. -/
def Of (e : Ref Entity) (l : Loan) : Prop := l.entity = e ∨ l.before.IsCopy l.entity

end Loan

namespace World

/-- The later world is reached by loans and refused openings. -/
inductive Lending : World → List Loan → World → Prop
  | done (w : World) : Lending w [] w
  | still {w w₁ w' : World} {ls : List Loan} (h : w.Still w₁) (later : Lending w₁ ls w') :
    Lending w ls w'
  | refused {w w₁ w' : World} {ls : List Loan} {e : Ref Entity} {f : Fault}
    (h : go (openContent e) w = (.error f, w₁)) (later : Lending w₁ ls w') : Lending w ls w'
  | lent {w' : World} {ls : List Loan} (l : Loan) (later : Lending l.after ls w') :
    Lending l.before (l :: ls) w'

/-- The later world is reached by at most `n` loans of different streams, every one of them was
given back, and nothing was closed besides. -/
def GivesBack (n : Nat) (w w' : World) : Prop :=
  ∃ ls, Lending w ls w' ∧ ls.length ≤ n ∧ (ls.map Loan.stream).Nodup ∧
    (∀ l ∈ ls, l.Returned) ∧ w'.closings = ls.reverse.flatMap Loan.closing ++ w.closings

/-- The source is as open as it was, and no stand-in was closed. -/
structure LeavesOpen (source : Ref Source) (w w' : World) : Prop where
  closed : (w'.sources.get source).closed = (w.sources.get source).closed
  closings : w'.closings = w.closings

variable {w w₁ w' w'' : World} {e e' : Ref Entity} {ls ls' : List Loan} {source : Ref Source}

/-! ## Nothing happens to streams -/

theorem Still.refl (w : World) : w.Still w := ⟨rfl, rfl, rfl, rfl, rfl, fun _ has => ⟨has, rfl⟩⟩

theorem Still.trans (h : w.Still w') (h' : w'.Still w'') : w.Still w'' where
  streams := h'.streams.trans h.streams
  sources := h'.sources.trans h.sources
  iterators := h'.iterators.trans h.iterators
  responses := h'.responses.trans h.responses
  trace := h'.trace.trans h.trace
  entities e has := by
    obtain ⟨has', same⟩ := h.entities e has
    obtain ⟨has'', same'⟩ := h'.entities e has'
    exact ⟨has'', same'.trans same⟩

instance : IsPreorder World Still where
  refl := .refl
  trans _ _ _ := .trans

/-- Entities may be made, and stand-ins may move on. -/
theorem still_of_entities {entities : Store Entity}
    (kept : ∀ e, w.entities.Has e →
      entities.Has e ∧ (entities.get e).own? = (w.entities.get e).own?) :
    w.Still { w with entities := entities } := ⟨rfl, rfl, rfl, rfl, rfl, kept⟩

theorem still_newEntity (x : Entity) : Keeps Still (newEntity x) := fun _ =>
  still_of_entities fun _ has =>
    ⟨Nat.lt_succ_of_lt has, congrArg Entity.own? (Store.get_alloc_of_has has x)⟩

theorem still_say (line : LogRecord) : Keeps Still (Act.say line) :=
  fun _ => ⟨rfl, rfl, rfl, rfl, rfl, fun _ has => ⟨has, rfl⟩⟩

/-- Reading a member of an entity moves a stand-in on and does nothing else. -/
theorem Look.still (h : Look e w w') : w.Still w' := by
  cases hx : w.entities.get e with
  | scripted s =>
    have moved (s' : EntityScript) :
        w.Still { w with entities := w.entities.set e (.scripted s') } :=
      still_of_entities fun e' has => ⟨has, own?_set_scripted hx s' e'⟩
    cases h with
    | length =>
      rw [contentLength, go_bind, go_entity, hx]
      exact moved _
    | repeatable =>
      rw [Act.repeatable, go_bind, go_entity, hx]
      exact moved _
    | type =>
      rw [contentType, go_bind, go_entity, hx]
      exact moved _
    | encoding =>
      rw [contentEncoding, go_bind, go_entity, hx]
      exact moved _
  | _ =>
    rw [eq_of_looks hx rfl (.single h)]
    exact .refl w

/-! ## What a loan leaves behind -/

end World

namespace Loan

variable {l : Loan} {e : Ref Entity} {source : Ref Source}

theorem opening (l : Loan) : l.before.Opening l.entity (.ok l.stream, l.opened) :=
  opening_of_go l.opens

/-- A stream on loan is given back. -/
theorem returned (l : Loan) : l.Returned where
  noted := by
    obtain ⟨reads, areReads, trace⟩ := l.reads.trace
    refine ⟨reads, areReads, ?_⟩
    rw [after, trace_closeStream, trace, l.reads.closing, closing, List.append_assoc]
  closed has := isClosed_closeStream (l.reads.closable.trans has)

theorem closings_after (l : Loan) : l.after.closings = l.closing ++ l.before.closings := by
  rw [after, closings_closeStream, l.reads.closing, l.reads.closings, l.opening.closings]
  rfl

/-- Reading and closing make nothing and change no entity. -/
theorem size_after (l : Loan) :
    l.after.sources.size = l.opened.sources.size ∧ l.after.streams.size = l.opened.streams.size := by
  obtain ⟨s, -, used⟩ := l.reads
  obtain ⟨sources, streams⟩ := size_putBack s
  obtain ⟨sources', streams'⟩ :=
    size_putBack ((l.used.opened l.stream).reader.close (l.used.opened l.stream).state).2
  rw [← used] at sources streams
  exact ⟨sources'.trans sources, streams'.trans streams⟩

theorem entities_after (l : Loan) : l.after.entities = l.opened.entities := by
  obtain ⟨s, -, used⟩ := l.reads
  have read := (drawn_putBack l.opened l.stream s).entities
  rw [← used] at read
  exact (drawn_closeStream l.stream l.used).entities.trans read

theorem has_source (l : Loan) (has : l.before.sources.Has source) : l.after.sources.Has source :=
  Nat.lt_of_lt_of_le has
    (Nat.le_trans l.opening.sources.size_le (Nat.le_of_eq l.size_after.1.symm))

theorem has_entity (l : Loan) {e : Ref Entity} (has : l.before.entities.Has e) :
    l.after.entities.Has e := by
  rw [entities_after]
  exact Nat.lt_of_lt_of_le has (Nat.le_of_eq l.opening.size_entities.symm)

/-- An entity that lends its content again and again stays as it is. -/
theorem get_after (l : Loan) {x : Entity} (hx : l.before.entities.get e = x)
    (lasting : x.isLasting = true) : l.after.entities.get e = x := by
  rw [entities_after]
  rcases l.opening.given rfl with ⟨-, -, same⟩ | ⟨length, type, encoding, once, opened⟩
  · refine Entity.eq_of_own? ((same e).trans ?_)
    rw [hx]
    exact Entity.own?_of_isLasting lasting
  · have other : e ≠ l.entity := by
      rintro rfl
      rw [hx.symm.trans once] at lasting
      exact Bool.false_ne_true lasting
    rw [show l.opened.entities = _ from congrArg World.entities opened]
    exact (Store.get_set_other other _).trans hx

end Loan

namespace World

variable {w w₁ w' w'' : World} {e e' : Ref Entity} {ls ls' : List Loan} {source : Ref Source}
  {lent : List (Ref Stream)}

namespace Lending

/-! ## Chains of loans -/

theorem trans (h : Lending w ls w₁) (h' : Lending w₁ ls' w') : Lending w (ls ++ ls') w' := by
  induction h with
  | done => exact h'
  | still quiet _ ih => exact .still quiet (ih h')
  | refused failed _ ih => exact .refused failed (ih h')
  | lent l _ ih => exact .lent l (ih h')

/-- A property that every step of a chain keeps holds at the end and before every loan. -/
theorem keeps {P : World → Prop} (h : Lending w ls w') (start : P w)
    (still : ∀ w w', w.Still w' → P w → P w')
    (refused : ∀ w e f w', go (openContent e) w = (.error f, w') → P w → P w')
    (loan : ∀ l : Loan, P l.before → P l.after) : P w' ∧ ∀ l ∈ ls, P l.before := by
  induction h with
  | done => exact ⟨start, fun _ mem => absurd mem List.not_mem_nil⟩
  | still quiet _ ih => exact ih (still _ _ quiet start)
  | refused failed _ ih => exact ih (refused _ _ _ _ failed start)
  | lent l _ ih =>
    obtain ⟨final, before⟩ := ih (loan l start)
    exact ⟨final, List.forall_mem_cons.2 ⟨start, before⟩⟩

/-- An entity that lends its content again and again is the same all along. -/
theorem get_of_lasting (h : Lending w ls w') {x : Entity} (there : w.entities.Has e)
    (hx : w.entities.get e = x) (lasting : x.isLasting = true) :
    (w'.entities.Has e ∧ w'.entities.get e = x) ∧ ∀ l ∈ ls, l.before.entities.get e = x := by
  have same {y : Entity} (h : y.own? = x.own?) : y = x :=
    Entity.eq_of_own? (h.trans (Entity.own?_of_isLasting lasting))
  have kept := h.keeps (P := fun w => w.entities.Has e ∧ w.entities.get e = x) ⟨there, hx⟩
    (fun w w' quiet held => ?_) (fun w e' f w' failed held => ?_) fun l held => ?_
  · exact ⟨kept.1, fun l mem => (kept.2 l mem).2⟩
  · obtain ⟨there, own⟩ := quiet.entities e held.1
    exact ⟨there, same (own.trans (congrArg Entity.own? held.2))⟩
  · have opening := opening_of_go failed
    exact ⟨Nat.lt_of_lt_of_le held.1 (Nat.le_of_eq opening.size_entities.symm),
      same ((opening.own?_of_refused rfl e).trans (congrArg Entity.own? held.2))⟩
  · exact ⟨l.has_entity held.1, l.get_after held.2 lasting⟩

theorem has_source (h : Lending w ls w') (has : w.sources.Has source) :
    ∀ l ∈ ls, l.before.sources.Has source := by
  refine (h.keeps (P := fun w => w.sources.Has source) has (fun w w' quiet has => ?_)
    (fun w e f w' failed has => ?_) fun l has => l.has_source has).2
  · rw [quiet.sources]
    exact has
  · exact Nat.lt_of_lt_of_le has (opening_of_go failed).sources.size_le

/-- The stand-ins that were closed are those on loan. -/
theorem closings (h : Lending w ls w') :
    w'.closings = ls.reverse.flatMap Loan.closing ++ w.closings := by
  induction h with
  | done => rfl
  | still quiet _ ih => rw [ih, World.closings, World.closings, quiet.trace]
  | refused failed _ ih =>
    rw [ih, (opening_of_go failed).closings]
  | lent l _ ih =>
    rw [ih, l.closings_after, List.reverse_cons, List.flatMap_append, List.flatMap_singleton,
      List.append_assoc]

end Lending

/-! ## No stream is lent twice -/

/-- What is known of an entity when these streams have been lent: a stream that it would hand out
itself is not among them. -/
structure HasLent (w : World) (e : Ref Entity) (lent : List (Ref Stream)) : Prop where
  has : w.entities.Has e
  distinct : lent.Nodup
  given : ∀ r ∈ lent, w.streams.Has r
  waiting : ∀ r length type encoding,
    w.entities.get e = .once r false length type encoding → r ∉ lent ∧ w.streams.Has r

theorem HasLent.of_same (h : w.HasLent e lent) (has : w'.entities.Has e)
    (same : (w'.entities.get e).own? = (w.entities.get e).own?)
    (grown : w.streams.size ≤ w'.streams.size) : w'.HasLent e lent where
  has := has
  distinct := h.distinct
  given r mem := Nat.lt_of_lt_of_le (h.given r mem) grown
  waiting r length type encoding once := by
    obtain ⟨apart, there⟩ := h.waiting r length type encoding
      (Entity.eq_of_own? (same.symm.trans (congrArg Entity.own? once)))
    exact ⟨apart, Nat.lt_of_lt_of_le there grown⟩

/-- A loan of the entity or of a copy is of a stream that was not lent before. -/
theorem HasLent.loan (l : Loan) (of : l.Of e) (h : l.before.HasLent e lent) :
    l.after.HasLent e (lent ++ [l.stream]) := by
  have grown : l.before.streams.size ≤ l.after.streams.size := by
    rw [l.size_after.2]
    exact l.opening.streams.size_le
  have given (there : l.after.streams.Has l.stream) (r : Ref Stream) (mem : r ∈ lent ++ [l.stream]) :
      l.after.streams.Has r := by
    rcases List.mem_append.1 mem with before | this
    · exact Nat.lt_of_lt_of_le (h.given r before) grown
    · rw [List.mem_singleton.1 this]
      exact there
  have distinct (new : l.stream ∉ lent) : (lent ++ [l.stream]).Nodup :=
    List.concat_eq_append ▸ h.distinct.concat new
  rcases l.opening.given rfl with ⟨fresh, made, same⟩ | ⟨length, type, encoding, once, opened⟩
  · have there : l.after.streams.Has l.stream :=
      Nat.lt_of_lt_of_le made (Nat.le_of_eq l.size_after.2.symm)
    refine ⟨l.has_entity h.has, distinct fun mem => fresh (h.given _ mem), given there,
      fun r length type encoding once => ?_⟩
    -- a stream that the entity holds itself is older than one that was made for the loan
    rw [l.entities_after] at once
    obtain ⟨apart, old⟩ := h.waiting r length type encoding
      (Entity.eq_of_own? ((same e).symm.trans (congrArg Entity.own? once)))
    refine ⟨fun mem => ?_, Nat.lt_of_lt_of_le old grown⟩
    rcases List.mem_append.1 mem with before | this
    · exact apart before
    · exact fresh (List.mem_singleton.1 this ▸ old)
  · obtain rfl : l.entity = e := by
      rcases of with same | ⟨-, content, type', encoding', copy⟩
      · exact same
      · exact nomatch once.symm.trans copy
    obtain ⟨new, old⟩ := h.waiting _ _ _ _ once
    have consumed : l.after.entities.get l.entity = .once l.stream true length type encoding := by
      rw [l.entities_after, show l.opened.entities = _ from congrArg World.entities opened]
      exact Store.get_set_same _ _ _
    exact ⟨l.has_entity h.has, distinct new, given (Nat.lt_of_lt_of_le old grown),
      fun r length' type' encoding' once' => nomatch consumed.symm.trans once'⟩

/-- An entity and copies of it lend no stream twice. -/
theorem Lending.hasLent (h : Lending w ls w') (of : ∀ l ∈ ls, l.Of e) (start : w.HasLent e lent) :
    w'.HasLent e (lent ++ ls.map Loan.stream) := by
  induction h generalizing lent with
  | done => rwa [List.map_nil, List.append_nil]
  | still quiet _ ih =>
    obtain ⟨has, same⟩ := quiet.entities e start.has
    exact ih of (start.of_same has same (Nat.le_of_eq (congrArg Store.size quiet.streams.symm)))
  | refused failed _ ih =>
    have opening := opening_of_go failed
    refine ih of (start.of_same ?_ (opening.own?_of_refused rfl e) opening.streams.size_le)
    exact Nat.lt_of_lt_of_le start.has (Nat.le_of_eq opening.size_entities.symm)
  | lent l _ ih =>
    obtain ⟨first, others⟩ := List.forall_mem_cons.1 of
    have rest := ih others (start.loan l first)
    rwa [List.append_assoc] at rest

/-- The entity is there, and so is the stream that it holds if it can be read once. -/
def Knows (w : World) (e : Ref Entity) : Prop :=
  w.entities.Has e ∧ ∀ r length type encoding,
    w.entities.get e = .once r false length type encoding → w.streams.Has r

/-- Loans of an entity that is there, and of copies, give back what they lend. -/
theorem Lending.givesBack {n : Nat} (h : Lending w ls w') (few : ls.length ≤ n)
    (of : ∀ l ∈ ls, l.Of e) (known : w.Knows e) : w.GivesBack n w' := by
  have start : w.HasLent e [] :=
    ⟨known.1, List.nodup_nil, fun _ mem => absurd mem List.not_mem_nil,
      fun r length type encoding once =>
        ⟨List.not_mem_nil, known.2 r length type encoding once⟩⟩
  exact ⟨ls, h, few, (h.hasLent of start).distinct, fun l _ => l.returned, h.closings⟩

/-! ## Sources that are not on loan themselves -/

theorem LeavesOpen.refl (source : Ref Source) (w : World) : w.LeavesOpen source w := ⟨rfl, rfl⟩

instance (source : Ref Source) : IsPreorder World (LeavesOpen source) where
  refl := .refl source
  trans _ _ _ h h' := ⟨h'.closed.trans h.closed, h'.closings.trans h.closings⟩

/-- Loans of other streams leave a source as open as it was. -/
theorem Lending.leavesOpen (h : Lending w ls w') (has : w.sources.Has source)
    (silent : ∀ l ∈ ls, l.closing = []) (apart : ∀ l ∈ ls, l.opened.direct? l.stream ≠ some source) :
    w.LeavesOpen source w' where
  closings := by
    rw [h.closings, List.flatMap_eq_nil_iff.2 fun l mem => silent l (List.mem_reverse.1 mem)]
    rfl
  closed := by
    clear silent
    induction h with
    | done => rfl
    | still quiet _ ih =>
      rw [ih (quiet.sources ▸ has) apart, quiet.sources]
    | refused failed _ ih =>
      have opening := opening_of_go failed
      rw [ih (Nat.lt_of_lt_of_le has opening.sources.size_le) apart, opening.sources.get_eq source has]
    | lent l _ ih =>
      obtain ⟨this, others⟩ := List.forall_mem_cons.1 apart
      rw [ih (l.has_source has) others]
      have other : l.used.direct? l.stream ≠ some source := l.reads.direct? ▸ this
      calc (l.after.sources.get source).closed
        _ = (l.used.sources.get source).closed := (keepsLock_closeStream other).closed
        _ = (l.opened.sources.get source).closed := (l.reads.keepsLock source).closed
        _ = (l.before.sources.get source).closed := by rw [l.opening.sources.get_eq source has]

/-- A stream that was opened over a file is not the file itself. -/
theorem direct?_newStream (w : World) (s : Stream) (indirect : ∀ source, s ≠ .direct source) :
    (go (newStream s) w).2.direct? w.streams.next = none := by
  unfold direct?
  rw [show (go (newStream s) w).2.streams.get w.streams.next = s from Store.get_alloc_same _ _]
  cases s with
  | direct source => exact absurd rfl (indirect source)
  | _ => rfl

/-- A stream that was opened over bytes is a source of its own. -/
theorem direct?_openSource (w : World) (s : Source) :
    (go (openSource s) w).2.direct? w.streams.next = some w.sources.next := by
  unfold direct?
  rw [show (go (openSource s) w).2.streams.get w.streams.next = .direct w.sources.next from
    Store.get_alloc_same _ _]

/-- A loan of a copy, or of an entity over a file, is not noted when it ends, and it is not a loan
of the file. -/
theorem apart_of_file (l : Loan) (of : l.Of e) {q : Ref Request} {type encoding : Value}
    (hx : l.before.entities.get e = .requestBody q (.file source) type encoding)
    (has : l.before.sources.Has source) :
    l.closing = [] ∧ l.opened.direct? l.stream ≠ some source := by
  have opens := l.opens
  rw [Loan.closing, closing]
  rcases of with same | ⟨-, content, type', encoding', copy⟩
  · rw [same, go_openContent_requestBody hx] at opens
    have stream : l.before.streams.next = l.stream := Except.ok.inj (congrArg Prod.fst opens)
    have world : (go (newStream (.overFile source .fresh)) l.before).2 = l.opened :=
      congrArg Prod.snd opens
    have direct : l.opened.direct? l.stream = none := by
      rw [← stream, ← world]
      exact direct?_newStream l.before _ fun _ => Stream.noConfusion
    rw [direct]
    exact ⟨rfl, (Option.some_ne_none source).symm⟩
  · rw [go_openContent_stored copy] at opens
    have stream : l.before.streams.next = l.stream := Except.ok.inj (congrArg Prod.fst opens)
    have world : (go (openSource (.ofBytes content)) l.before).2 = l.opened :=
      congrArg Prod.snd opens
    have direct : l.opened.direct? l.stream = some l.before.sources.next := by
      rw [← stream, ← world]
      exact direct?_openSource l.before _
    have found : l.opened.sources.get l.before.sources.next = .ofBytes content := by
      rw [← world]
      exact Store.get_alloc_same _ _
    rw [direct]
    dsimp only
    rw [found]
    refine ⟨rfl, fun same => Store.not_has_next l.before.sources ?_⟩
    rw [Option.some.inj same]
    exact has

/-- Loans of an entity over a file, and of copies, leave the file open. -/
theorem Lending.leavesFileOpen (h : Lending w ls w') (of : ∀ l ∈ ls, l.Of e) {q : Ref Request}
    {type encoding : Value} (there : w.entities.Has e)
    (hx : w.entities.get e = .requestBody q (.file source) type encoding)
    (has : w.sources.Has source) : w.LeavesOpen source w' := by
  have apart : ∀ l ∈ ls, l.closing = [] ∧ l.opened.direct? l.stream ≠ some source := fun l mem =>
    apart_of_file l (of l mem) ((h.get_of_lasting there hx rfl).2 l mem) (h.has_source has l mem)
  exact h.leavesOpen has (fun l mem => (apart l mem).1) fun l mem => (apart l mem).2

end World
end HttpTap
