import HttpTap.Proofs.Reading.Gathering
import HttpTap.Proofs.Reading.Ground

/-!
# How far a bounded reading goes

A bounded reading takes away what it reads, and whoever reads the stream afterwards misses it.  So
it matters how much it asks for.  `Reader.noting` is a reader that keeps an account of the reads,
and `Reader.readBounded_account` says what the account of a bounded reading looks like.

For any stream whatever, no read asks for more than a chunk or for more than is missing up to one
byte beyond the limit, and there are no more reads than such bytes.  If a read fails, its fault is
the outcome (`Account`).

For a stream that gives what it is asked for or less (`Reader.Obeys`), what is taken away is known
to the byte, and so is the outcome: neither depends on the size of a chunk or on where the stream
cuts its pieces (`Takes`).

## The measure

A read that does not end the loop gives at least one byte.  So what is missing is less after it, and
the number of reads that follow is no greater than that (`account_collect`).
-/

namespace HttpTap

/-- One read: the size that was asked for, and the answer. -/
structure Asked where
  size : Int
  answer : Except Fault Value

/-- The bytes that a read gave. -/
def Asked.given (a : Asked) : Bytes :=
  match a.answer with
  | .ok (.bytes bs) => bs
  | _ => []

/-- The bytes that some reads gave. -/
def taken (log : List Asked) : Bytes := log.flatMap Asked.given

@[simp] theorem taken_nil : taken [] = [] := rfl

@[simp] theorem taken_cons (a : Asked) (log : List Asked) :
    taken (a :: log) = a.given ++ taken log := rfl

/-- Each read asks for something, for a chunk at most, and for what is missing at most. -/
def Frugal (chunk : Int) : Nat → List Asked → Prop
  | _, [] => True
  | missing, a :: log =>
    (0 < a.size ∧ a.size ≤ chunk ∧ a.size ≤ missing) ∧ Frugal chunk (missing - a.given.length) log

namespace Reader

variable {σ : Type} {r : Reader σ} {s s' : σ} {c : Bytes}

/-- The reader that keeps an account of the reads, the latest one last. -/
def noting (r : Reader σ) : Reader (σ × List Asked) where
  read size x :=
    ((r.read size x.1).1, (r.read size x.1).2, x.2 ++ [⟨size, (r.read size x.1).1⟩])
  into cells x :=
    ((r.into cells x.1).1, (r.into cells x.1).2, x.2 ++ [⟨cells, (r.into cells x.1).1⟩])
  close x := ((r.close x.1).1, (r.close x.1).2, x.2)
  weight x := r.weight x.1
  calls x := r.calls x.1
  paid size x := r.paid size x.1

end Reader

/-! ## What becomes of any stream -/

theorem Asked.given_of_falsy {a : Asked} {v : Value} (answer : a.answer = .ok v)
    (falsy : v.truthy = false) : a.given = [] := by
  unfold given
  rw [answer]
  cases v with
  | bytes bs => simpa using falsy
  | _ => rfl

/-- Only bytes can be appended. -/
theorem Value.eq_of_appendable {v : Value} {bs : Bytes} (h : v.appendable = .ok bs) :
    v = .bytes bs := by
  cases v with
  | bytes cs => exact congrArg Value.bytes (Except.ok.inj h)
  | _ => exact nomatch h

theorem Asked.given_of_misfit {a : Asked} {v : Value} {f : Fault} (answer : a.answer = .ok v)
    (misfit : v.appendable = .error f) : a.given = [] := by
  unfold given
  rw [answer]
  cases v with
  | bytes bs => exact nomatch misfit
  | _ => rfl

/-- What the account `log` of a collecting of `d` with `missing` bytes to go looks like. -/
structure Gathers {σ : Type} (chunk : Int) (missing : Nat) (d : Drained σ) (log : List Asked) :
    Prop where
  frugal : Frugal chunk missing log
  few : log.length ≤ missing
  data : taken log = d.data
  raised : ∀ a ∈ log, ∀ f, a.answer = .error f → d.fault = some f

namespace Reader

variable {σ : Type} {r : Reader σ} {s s' : σ} {c : Bytes} {chunk : Int} {missing : Nat}

/-- Collecting ends at the first answer that cannot be appended. -/
theorem collect_of_misfit {v : Value} {f : Fault} (hm : missing ≠ 0)
    (h : r.read (min chunk missing) s = (.ok v, s')) (truthy : v.truthy = true)
    (misfit : v.appendable = .error f) : r.collect chunk missing s = ⟨[], some f, s'⟩ := by
  rw [collect, if_neg hm]
  split
  · next g t hr => rw [h] at hr; exact absurd hr (by simp)
  · next u t hr =>
    rw [h] at hr
    simp only [Prod.mk.injEq, Except.ok.injEq] at hr
    obtain ⟨rfl, rfl⟩ := hr
    rw [dif_pos truthy, misfit]

/-- A read is put on the account. -/
theorem read_noting {size : Int} {answer : Except Fault Value} (h : r.read size s = (answer, s'))
    (before : List Asked) :
    r.noting.read size (s, before) = (answer, s', before ++ [⟨size, answer⟩]) := by
  show ((r.read size s).1, (r.read size s).2, before ++ [⟨size, (r.read size s).1⟩]) = _
  rw [h]

/-- An account of one read that gave nothing. -/
theorem gathers_last (step : 0 < chunk) (hm : missing ≠ 0) {a : Asked} (rest : σ)
    {fault : Option Fault} (size : a.size = min chunk missing) (nothing : a.given = [])
    (raised : ∀ f, a.answer = .error f → fault = some f) :
    Gathers chunk missing ⟨[], fault, rest⟩ [a] where
  frugal := by
    refine ⟨?_, trivial⟩
    rw [size]
    omega
  few := by
    rw [List.length_singleton]
    omega
  data := by rw [taken_cons, nothing, taken_nil, List.append_nil]
  raised := by
    intro b mem
    obtain rfl := List.mem_singleton.1 mem
    exact raised

/-- One read that gave something, and the reads after it. -/
theorem gathers_cons (step : 0 < chunk) (hm : missing ≠ 0) {bs : Bytes} {d : Drained σ}
    {log : List Asked} (filled : bs ≠ []) (h : Gathers chunk (missing - bs.length) d log) :
    Gathers chunk missing (d.after bs) (⟨min chunk missing, .ok (.bytes bs)⟩ :: log) where
  frugal := by
    refine ⟨?_, h.frugal⟩
    dsimp only
    omega
  few := by
    have some_bytes := List.length_pos_iff.2 filled
    have rest := h.few
    rw [List.length_cons]
    omega
  data := by
    rw [taken_cons, h.data]
    rfl
  raised := by
    intro a mem f failed
    rcases List.mem_cons.1 mem with rfl | later
    · exact nomatch failed
    · exact h.raised a later f failed

/-- Keeping an account changes nothing, and this is what the account looks like. -/
theorem account_collect (step : 0 < chunk) (missing : Nat) (s : σ) (before : List Asked) :
    ∃ log, r.noting.collect chunk missing (s, before) =
        ⟨(r.collect chunk missing s).data, (r.collect chunk missing s).fault,
          (r.collect chunk missing s).rest, before ++ log⟩ ∧
      Gathers chunk missing (r.collect chunk missing s) log := by
  -- by induction on what the loop does, for every account that it starts from
  fun_induction r.collect chunk missing s generalizing before with
  | case1 s =>
    refine ⟨[], ?_, trivial, Nat.le_refl 0, rfl, by simp⟩
    rw [collect, if_pos rfl, List.append_nil]
  | case2 missing s hm f s' failed =>
    refine ⟨[⟨min chunk missing, .error f⟩], ?_, gathers_last step hm s' rfl rfl ?_⟩
    · exact collect_of_fault hm (read_noting failed before)
    · intro g same
      exact congrArg some (Except.error.inj same)
  | case3 missing s hm v s' answer truthy f misfit =>
    refine ⟨[⟨min chunk missing, .ok v⟩], ?_, gathers_last step hm s' rfl ?_ (by simp)⟩
    · exact collect_of_misfit hm (read_noting answer before) truthy misfit
    · exact Asked.given_of_misfit rfl misfit
  | case4 missing s hm v s' answer truthy bs fits d ih =>
    obtain rfl := Value.eq_of_appendable fits
    have filled : bs ≠ [] := by simpa using truthy
    obtain ⟨log, collected, gathers⟩ := ih (before ++ [⟨min chunk missing, .ok (.bytes bs)⟩])
    refine ⟨_, ?_, gathers_cons step hm filled gathers⟩
    rw [collect_of_piece hm (read_noting answer before) filled, collected]
    simp [d]
  | case5 missing s hm v s' answer falsy =>
    have ends : v.truthy = false := Bool.eq_false_iff.2 falsy
    refine ⟨[⟨min chunk missing, .ok v⟩], ?_, gathers_last step hm s' rfl ?_ (by simp)⟩
    · exact collect_of_end hm (read_noting answer before) ends
    · exact Asked.given_of_falsy rfl ends

/-! ## What becomes of a stream that obeys -/

/-- Of a stream that obeys just what is missing is taken, or all that there is. -/
theorem collect_of_obeys {most : Int} {stop : Option Fault} (h : r.Obeys most s c stop)
    (within : 0 < chunk ∧ chunk ≤ most) (missing : Nat) :
    ∃ s', r.collect chunk missing s =
        ⟨c.take missing, if missing ≤ c.length then none else stop, s'⟩ ∧
      (missing ≤ c.length → r.Obeys most s' (c.drop missing) stop) := by
  by_cases done : missing = 0
  · subst done
    refine ⟨s, ?_, fun _ => h⟩
    rw [collect, if_pos rfl, if_pos (Nat.zero_le _), List.take_zero]
  have asked : 0 < min chunk (missing : Int) ∧ min chunk (missing : Int) ≤ most := by omega
  induction h generalizing missing with
  | @ended s stops =>
    obtain ⟨v, answer, falsy⟩ := stops _ asked
    have ends : r.read (min chunk missing) s = (.ok v, (r.read (min chunk missing) s).2) :=
      Prod.ext answer rfl
    refine ⟨(r.read (min chunk missing) s).2, ?_, fun enough => absurd (Nat.le_zero.1 enough) done⟩
    rw [collect_of_end done ends falsy, List.take_nil, ite_self]
  | @broken s f fails =>
    have failed : r.read (min chunk missing) s = (.error f, (r.read (min chunk missing) s).2) :=
      Prod.ext (fails _ asked) rfl
    have none : ¬ missing ≤ ([] : Bytes).length := by simpa using done
    refine ⟨(r.read (min chunk missing) s).2, ?_, fun enough => absurd enough none⟩
    rw [collect_of_fault done failed, List.take_nil, if_neg none]
  | @more s c stop gives goesOn ih =>
    obtain ⟨bs, answer, filled, few, rest, rfl⟩ := gives _ asked
    have piece : r.read (min chunk missing) s =
        (.ok (.bytes bs), (r.read (min chunk missing) s).2) := Prod.ext answer rfl
    have within : bs.length ≤ missing := by omega
    have front : (bs ++ rest).take missing = bs ++ rest.take (missing - bs.length) := by
      rw [List.take_append, List.take_of_length_le within]
    have back : (bs ++ rest).drop missing = rest.drop (missing - bs.length) := by
      rw [List.drop_append, List.drop_eq_nil_of_le within, List.nil_append]
    have enough : missing ≤ (bs ++ rest).length ↔ missing - bs.length ≤ rest.length := by
      rw [List.length_append]
      omega
    rw [collect_of_piece done piece filled]
    simp only [front, back, enough]
    by_cases last : missing - bs.length = 0
    · have obeys := goesOn _ asked bs answer
      rw [List.drop_left] at obeys
      refine ⟨(r.read (min chunk missing) s).2, ?_, fun _ => ?_⟩
      · rw [last, collect, if_pos rfl, if_pos (Nat.zero_le _), List.take_zero]
      · rw [last]
        exact obeys
    · obtain ⟨s', collected, obeys⟩ := ih _ asked bs answer (missing - bs.length) last (by omega)
      rw [List.drop_left] at collected obeys
      refine ⟨s', ?_, obeys⟩
      rw [collected]

end Reader

/-! ## Bounded readings -/

/-- No read of a frugal account goes beyond what was missing at the start. -/
theorem Frugal.asks {chunk : Int} {missing : Nat} {before after : List Asked} {a : Asked}
    (h : Frugal chunk missing (before ++ a :: after)) :
    0 < a.size ∧ a.size ≤ chunk ∧ a.size + (taken before).length ≤ missing := by
  induction before generalizing missing with
  | nil =>
    obtain ⟨⟨asked, small, few⟩, -⟩ := h
    exact ⟨asked, small, by simpa using few⟩
  | cons b before ih =>
    obtain ⟨-, later⟩ := h
    obtain ⟨asked, small, few⟩ := ih later
    refine ⟨asked, small, ?_⟩
    rw [taken_cons, List.length_append]
    omega

/-- The account of a bounded reading of any stream.  A read asks for no more than a chunk and for no
more than is missing up to one byte beyond the limit; there are no more reads than such bytes; and
the outcome of a reading in which a read fails is the fault of that read. -/
structure Account (limit chunk : Int) (outcome : Except Fault BoundedRead) (log : List Asked) :
    Prop where
  asks : ∀ before a after, log = before ++ a :: after →
    0 < a.size ∧ a.size ≤ chunk ∧ a.size + (taken before).length ≤ limit + 1
  few : log.length ≤ limit + 1
  raised : ∀ a ∈ log, ∀ f, a.answer = .error f → outcome = .error f

/-- What a bounded reading of a stream of `c` comes to, and what it leaves.  It takes the bytes up
to one beyond the limit.  The fault at the end of `c` is met only if the end is. -/
structure Takes {σ : Type} (r : Reader σ) (most limit : Int) (c : Bytes) (stop : Option Fault)
    (outcome : Except Fault BoundedRead) (rest : σ) (log : List Asked) : Prop where
  took : taken log = c.take (limit.toNat + 1)
  left : limit < c.length → r.Obeys most rest (c.drop (limit.toNat + 1)) stop
  whole : stop = none ∨ limit < c.length →
    outcome = .ok ⟨c.take limit.toNat, decide (limit < c.length)⟩
  broken : ∀ f, stop = some f → c.length ≤ limit → outcome = .error f

namespace Reader

variable {σ : Type} {r : Reader σ} {limit chunk : Int}

/-- A bounded reading collects the limit and one byte more. -/
theorem readBounded_collect (r : Reader σ) (pos : 0 < limit) (chunk : Int) (s : σ) :
    r.readBounded limit chunk s = ((r.collect chunk (limit.toNat + 1) s).upTo limit,
      (r.collect chunk (limit.toNat + 1) s).rest) := by
  rw [readBounded, if_neg (by omega), Drained.upTo]
  dsimp only
  cases (r.collect chunk (limit.toNat + 1) s).fault <;> rfl

/-- An account is kept of every bounded reading, and it keeps to the bounds.  If the stream obeys,
the bytes that were taken and the outcome are known. -/
theorem readBounded_account (r : Reader σ) (s : σ) (pos : 0 < limit) (step : 0 < chunk) :
    ∃ outcome rest log, r.readBounded limit chunk s = (outcome, rest) ∧
      r.noting.readBounded limit chunk (s, []) = (outcome, rest, log) ∧
      Account limit chunk outcome log ∧
      ∀ most c stop, chunk ≤ most → r.Obeys most s c stop →
        Takes r most limit c stop outcome rest log := by
  obtain ⟨log, noted, gathers⟩ := r.account_collect step (limit.toNat + 1) s []
  refine ⟨_, _, log, readBounded_collect r pos chunk s, ?_, ⟨?_, ?_, ?_⟩,
    fun most c stop small obeys => ?_⟩
  · rw [readBounded_collect r.noting pos chunk, noted]
    rfl
  · rintro before a after rfl
    obtain ⟨asked, small, few⟩ := gathers.frugal.asks
    exact ⟨asked, small, by omega⟩
  · have few := gathers.few
    omega
  · intro a mem f failed
    rw [Drained.upTo, gathers.raised a mem f failed]
  · obtain ⟨s', collected, left⟩ := collect_of_obeys obeys ⟨step, small⟩ (limit.toNat + 1)
    have data := gathers.data
    rw [collected] at data ⊢
    have front : (c.take (limit.toNat + 1)).take limit.toNat = c.take limit.toNat := by
      rw [List.take_take, Nat.min_eq_left (Nat.le_succ _)]
    have longer : decide (limit.toNat < (c.take (limit.toNat + 1)).length) =
        decide (limit < c.length) := by
      rw [List.length_take]
      exact decide_eq_decide.2 (by omega)
    refine ⟨data, fun more => left (by omega), fun ends => ?_, fun f failing short => ?_⟩
    · have unbroken : (if limit.toNat + 1 ≤ c.length then none else stop) = none := by
        rcases ends with none | more
        · rw [none, ite_self]
        · rw [if_pos (by omega)]
      rw [Drained.upTo]
      dsimp only
      rw [unbroken, front, longer]
    · rw [Drained.upTo]
      dsimp only
      rw [if_neg (by omega), failing]

/-- Of six bytes that come in pairs four are taken, and the other two are left. -/
theorem readBounded_account_pairs :
    ∃ rest log, StandIn.reader.readBounded 3 8192
        ⟨"s", .data [1, 2, 3, 4, 5, 6] (some 2) none, false, none, true, []⟩ =
          (.ok ⟨[1, 2, 3], true⟩, rest) ∧
      taken log = [1, 2, 3, 4] ∧ log.length ≤ 4 ∧ StandIn.reader.Obeys 8192 rest [5, 6] none := by
  obtain ⟨outcome, rest, log, read, -, account, takes⟩ := StandIn.reader.readBounded_account
    ⟨"s", .data [1, 2, 3, 4, 5, 6] (some 2) none, false, none, true, []⟩
    (show (0 : Int) < 3 by decide) (show (0 : Int) < 8192 by decide)
  obtain ⟨took, left, whole, -⟩ := takes 8192 [1, 2, 3, 4, 5, 6] none (Int.le_refl _)
    (StandIn.obeys rfl rfl (by decide) 8192)
  obtain rfl := whole (.inl rfl)
  have few := account.few
  exact ⟨rest, log, read, took, by omega, left (by decide)⟩

end Reader
end HttpTap
