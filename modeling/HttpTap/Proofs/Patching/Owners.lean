import HttpTap.Proofs.Exchange.Lifetime
import HttpTap.Proofs.Patching.Wrapping
import Mathlib.Data.List.Induction

/-!
# Several instruments for one module

A program may make any number of instruments for one module and take each of them back, in any
order and more than once.  The mark on the module is there to keep a second instrument from
wrapping what the first one has wrapped, and taking back is meant to leave the function as it was
found.

The mark does not know whose it is.  Taking back an instrument takes the mark away, also when
another one has wrapped the function, and then the next instrument comes on top.  After that there
are two spans for one request, and since each instrument puts back what it has found, the outer one
may put the inner one back that was taken away before.

A `Ledger` is what can be told from the moves alone: how many instruments were made, which of them
have not been taken back, and who has wrapped the function.  `Accords` ties it to the site, move by
move, as long as there is one wrapper at most.  `play_sound_iff` is the result: everything is as
it is meant to be exactly if no enabled instrument is made while another one has wrapped the
function and the mark is gone.
-/

namespace HttpTap

namespace Act

variable {σ κ : Type}

/-- A function that was wrapped several times starts one span for each wrapper. -/
theorem starts_sendBy {bare : Sending σ κ}
    (quiet : ∀ session q arguments, Starts 0 (bare session q arguments)) (s : Sender) (session : σ)
    (q : Ref Request) (arguments : κ) :
    Starts s.wrappers.length (sendBy bare s session q arguments) := by
  induction s with
  | bare => exact quiet session q arguments
  | wrapped i inner ih => exact Starts.after (keeps_view _) fun i => starts_tracedSend i ih

end Act

namespace Client

open Act Patching

/-! ## What a program does -/

/-- What a program does with the instruments of a module. -/
inductive Move where
  /-- Make an instrument. -/
  | make (i : Instrument) (enabled : Bool)
  /-- Take the instrument back that was made after so many others. -/
  | undo (k : Nat)

/-- A site, with the instruments that were made for the module and whether they are enabled. -/
structure Stage where
  site : Site
  made : List (Ref Instrument × Bool)

/-- Make a move.  An instrument that was never made cannot be taken back. -/
def Stage.move (m : Ref ClientModule) (s : Stage) : Move → Stage
  | .make i enabled =>
    match go (create m i enabled) s.site with
    | (.ok r, site) => ⟨site, s.made ++ [(r, enabled)]⟩
    | (.error _, site) => ⟨site, s.made⟩
  | .undo k =>
    match s.made[k]? with
    | none => s
    | some (r, enabled) => ⟨(go (uninstrument m r enabled) s.site).2, s.made⟩

/-- Make several moves. -/
def Stage.play (m : Ref ClientModule) (s : Stage) (moves : List Move) : Stage :=
  moves.foldl (Stage.move m) s

/-- The function by which the sessions of the module send. -/
def Stage.sender (m : Ref ClientModule) (s : Stage) : Option Sender :=
  (s.site.other.modules.get m).sender

/-! ## What can be told from the moves -/

/-- Who has wrapped the function. -/
inductive Tenure where
  /-- One instrument at most, and whether the module is marked. -/
  | single (owner : Option Nat) (marked : Bool)
  /-- There has been an instrument around another one. -/
  | doubled
  deriving DecidableEq

/-- An enabled instrument wraps the function unless the module is marked. -/
def Tenure.made (n : Nat) (enabled : Bool) : Tenure → Tenure
  | .single owner marked =>
    if enabled && !marked then
      match owner with
      | none => .single (some n) true
      | some _ => .doubled
    else .single owner marked
  | .doubled => .doubled

theorem Tenure.made_idle {enabled marked : Bool} (idle : enabled = false ∨ marked = true) (n : Nat)
    (owner : Option Nat) : (Tenure.single owner marked).made n enabled = .single owner marked := by
  have not : ¬ (enabled && !marked) = true := by
    rcases idle with rfl | rfl <;> simp
  exact if_neg not

/-- Taking back any instrument takes the mark away, and taking back the owner also puts the
function back. -/
def Tenure.undone (k : Nat) : Tenure → Tenure
  | .single owner _ => .single (if owner = some k then none else owner) false
  | .doubled => .doubled

/-- How many instruments were made, which of them have not been taken back since, and who has
wrapped the function. -/
structure Ledger where
  made : Nat
  pending : List Nat
  tenure : Tenure

/-- Enter a move. -/
def Ledger.enter (l : Ledger) : Move → Ledger
  | .make _ enabled => ⟨l.made + 1, l.made :: l.pending, l.tenure.made l.made enabled⟩
  | .undo k =>
    if k < l.made then ⟨l.made, l.pending.filter (· ≠ k), l.tenure.undone k⟩ else l

/-- The ledger of several moves. -/
def ledger (moves : List Move) : Ledger := moves.foldl Ledger.enter ⟨0, [], .single none false⟩

theorem ledger_append (moves rest : List Move) :
    ledger (moves ++ rest) = rest.foldl Ledger.enter (ledger moves) :=
  List.foldl_append

theorem Ledger.enter_doubled {l : Ledger} (h : l.tenure = .doubled) (v : Move) :
    (l.enter v).tenure = .doubled := by
  cases v with
  | make i enabled => rw [enter, h, Tenure.made]
  | undo k =>
    rw [enter]
    split
    · rw [h, Tenure.undone]
    · exact h

theorem Ledger.foldl_doubled {l : Ledger} (h : l.tenure = .doubled) (moves : List Move) :
    (moves.foldl Ledger.enter l).tenure = .doubled := by
  induction moves generalizing l with
  | nil => exact h
  | cons v moves ih => exact ih (enter_doubled h v)

/-- The one move that puts an instrument around another one. -/
theorem Ledger.eq_of_enter_doubled {l : Ledger} {v : Move} (h : l.tenure ≠ .doubled)
    (entered : (l.enter v).tenure = .doubled) :
    ∃ i o, v = .make i true ∧ l.tenure = .single (some o) false := by
  cases held : l.tenure with
  | doubled => exact absurd held h
  | single owner marked =>
    cases v with
    | undo k =>
      rw [enter] at entered
      split at entered
      · rw [held] at entered
        exact Tenure.noConfusion entered
      · exact absurd entered h
    | make i enabled =>
      rw [enter, held] at entered
      dsimp only [Tenure.made] at entered
      split at entered
      · rename_i wraps
        obtain ⟨rfl, unmarked⟩ := Bool.and_eq_true_iff.1 wraps
        obtain rfl : marked = false := by simpa using unmarked
        cases owner with
        | none => exact Tenure.noConfusion entered
        | some o => exact ⟨i, o, rfl, rfl⟩
      · exact Tenure.noConfusion entered

/-! ## One wrapper at most -/

variable {m : Ref ClientModule} {site : Site} {base n : Nat} {owner : Option Nat} {marked : Bool}
  {s : Stage} {l : Ledger}

/-- The function, wrapped by an instrument or not; the instruments of the module are numbered from
`base` on. -/
def senderOf (base : Nat) : Option Nat → Sender
  | none => .bare
  | some o => .wrapped ⟨base + o⟩ .bare

/-- The function is wrapped by its owner and nobody else, and the owner remembers the original. -/
def OwnedBy (m : Ref ClientModule) (site : Site) (base n : Nat) (owner : Option Nat)
    (marked : Bool) : Prop :=
  ∃ held, Shows m site marked (senderOf base owner) held ∧
    ∀ k < n, held (base + k) = if owner = some k then some .bare else none

/-- The ledger tells what the site shows, and there is one wrapper at most. -/
structure Accords (m : Ref ClientModule) (base : Nat) (s : Stage) (l : Ledger) : Prop where
  length : s.made.length = l.made
  counted : count s.site = base + l.made
  numbered : ∀ (k : Nat) (r : Ref Instrument) (enabled : Bool),
    s.made[k]? = some (r, enabled) → r = ⟨base + k⟩
  owned : ∃ owner marked, l.tenure = .single owner marked ∧
    OwnedBy m s.site base l.made owner marked ∧
      ∀ o, owner = some o → o ∈ l.pending ∧ s.made[o]? = some (⟨base + o⟩, true)

theorem OwnedBy.sender (h : OwnedBy m s.site base n owner marked) :
    s.sender m = some (senderOf base owner) := by
  obtain ⟨held, shown, -⟩ := h
  exact shown.sender

/-- Making an instrument that wraps nothing changes nothing for the owner. -/
theorem OwnedBy.create_idles (h : OwnedBy m site base n owner marked) (i : Instrument)
    {enabled : Bool} (counted : count site = base + n) (owner_lt : ∀ o, owner = some o → o < n)
    (idle : enabled = false ∨ marked = true) :
    ∃ site', go (create m i enabled) site = (.ok ⟨base + n⟩, site') ∧
      OwnedBy m site' base (n + 1) owner marked ∧ count site' = base + (n + 1) := by
  obtain ⟨held, shown, holds⟩ := h
  obtain ⟨site', made, shown', grown⟩ := Client.create_idles shown i idle
  rw [counted] at made shown' grown
  refine ⟨site', made, ⟨_, shown', ?_⟩, grown⟩
  intro k below
  rcases Nat.lt_succ_iff_lt_or_eq.1 below with below | rfl
  · rw [Function.update_of_ne (by omega), holds k below]
  · rw [Function.update_self, if_neg fun own => Nat.lt_irrefl k (owner_lt k own)]

/-- Making one that wraps the function makes it the owner. -/
theorem OwnedBy.create_wraps (h : OwnedBy m site base n none false) (i : Instrument)
    (counted : count site = base + n) :
    ∃ site', go (create m i true) site = (.ok ⟨base + n⟩, site') ∧
      OwnedBy m site' base (n + 1) (some n) true ∧ count site' = base + (n + 1) := by
  obtain ⟨held, shown, holds⟩ := h
  obtain ⟨site', made, shown', grown⟩ := Client.create_wraps shown i
  rw [counted] at made shown' grown
  refine ⟨site', made, ⟨_, shown', ?_⟩, grown⟩
  intro k below
  rcases Nat.lt_succ_iff_lt_or_eq.1 below with below | rfl
  · rw [Function.update_of_ne (by omega), holds k below, if_neg (by simp),
      if_neg fun own => Nat.ne_of_gt below (Option.some.inj own)]
  · rw [Function.update_self, if_pos rfl]
    rfl

/-- Taking back the owner puts the function back; taking back another one takes the mark away. -/
theorem OwnedBy.uninstrument (h : OwnedBy m site base n owner marked) {k : Nat} (below : k < n)
    {enabled : Bool} (owns : owner = some k → enabled = true) :
    ∃ site', go (Client.uninstrument m ⟨base + k⟩ enabled) site = (.ok (), site') ∧
      OwnedBy m site' base n (if owner = some k then none else owner) false ∧
      count site' = count site := by
  obtain ⟨held, shown, holds⟩ := h
  by_cases own : owner = some k
  · subst own
    obtain rfl := owns rfl
    have something : held (base + k) = some .bare := (holds k below).trans (if_pos rfl)
    obtain ⟨site', undone, shown', same⟩ :=
      uninstrument_restores (r := ⟨base + k⟩) shown something
    rw [if_pos rfl]
    refine ⟨site', undone, ⟨_, shown', ?_⟩, same⟩
    intro j smaller
    rw [if_neg (by simp)]
    by_cases same : j = k
    · subst same
      exact Function.update_self _ _ _
    · rw [Function.update_of_ne (by show base + j ≠ base + k; omega), holds j smaller,
        if_neg fun own => same (Option.some.inj own).symm]
  · have nothing : held (base + k) = none := (holds k below).trans (if_neg own)
    obtain ⟨site', undone, shown', same⟩ :=
      uninstrument_idles (r := ⟨base + k⟩) shown (.inr nothing)
    rw [if_neg own]
    exact ⟨site', undone, ⟨held, shown', holds⟩, same⟩

/-! ## Move by move -/

theorem Accords.lt_of_get (h : Accords m base s l) {k : Nat} {x : Ref Instrument × Bool}
    (found : s.made[k]? = some x) : k < l.made :=
  h.length ▸ (List.getElem?_eq_some_iff.1 found).1

/-- The references of the instruments are still in a row after another one was made. -/
theorem Accords.numbered_append (h : Accords m base s l) (enabled : Bool) (k : Nat)
    (r : Ref Instrument) (e : Bool)
    (found : (s.made ++ [(⟨base + l.made⟩, enabled)])[k]? = some (r, e)) : r = ⟨base + k⟩ := by
  rcases Nat.lt_or_ge k s.made.length with old | new
  · rw [List.getElem?_append_left old] at found
    exact h.numbered k r e found
  · rw [List.getElem?_append_right new, List.getElem?_singleton] at found
    split at found
    · rename_i first
      obtain rfl : k = l.made := by
        have := h.length
        omega
      exact (Prod.mk.inj (Option.some.inj found)).1.symm
    · exact absurd found (by simp)

/-- Another instrument was made, and the ledger knows who owns the function now. -/
theorem Accords.of_create (h : Accords m base s l) {i : Instrument} {enabled : Bool}
    (created : ∃ site', go (create m i enabled) s.site = (.ok ⟨base + l.made⟩, site') ∧
      OwnedBy m site' base (l.made + 1) owner marked ∧ count site' = base + (l.made + 1))
    (told : l.tenure.made l.made enabled = .single owner marked)
    (owns : ∀ o, owner = some o → o ∈ l.made :: l.pending ∧
      (s.made ++ [(⟨base + l.made⟩, enabled)])[o]? = some (⟨base + o⟩, true)) :
    Accords m base (s.move m (.make i enabled)) (l.enter (.make i enabled)) := by
  obtain ⟨site', made, owned, grown⟩ := created
  have done : s.move m (.make i enabled) = ⟨site', s.made ++ [(⟨base + l.made⟩, enabled)]⟩ := by
    rw [Stage.move, made]
  rw [done]
  refine ⟨?_, grown, h.numbered_append enabled, owner, marked, told, owned, owns⟩
  show (s.made ++ [_]).length = l.made + 1
  rw [List.length_append, h.length, List.length_singleton]

/-- Making an instrument that does not come around another one. -/
theorem Accords.move_make (h : Accords m base s l) (i : Instrument) (enabled : Bool)
    (single : (l.enter (.make i enabled)).tenure ≠ .doubled) :
    Accords m base (s.move m (.make i enabled)) (l.enter (.make i enabled)) := by
  obtain ⟨owner, marked, held, owned, owns⟩ := h.owned
  by_cases idle : enabled = false ∨ marked = true
  · -- The owner is still who it was, and has not been taken back.
    have smaller (o : Nat) (own : owner = some o) : o < l.made := h.lt_of_get (owns o own).2
    refine h.of_create (owned.create_idles i h.counted smaller idle)
      (by rw [held, Tenure.made_idle idle]) fun o own => ?_
    obtain ⟨pending, found⟩ := owns o own
    refine ⟨List.mem_cons_of_mem _ pending, ?_⟩
    rw [List.getElem?_append_left (List.getElem?_eq_some_iff.1 found).1, found]
  · obtain ⟨rfl, rfl⟩ : enabled = true ∧ marked = false := by simpa using idle
    cases owner with
    | some o =>
      rw [Ledger.enter, held] at single
      exact absurd rfl single
    | none =>
      refine h.of_create (owned.create_wraps i h.counted) (by rw [held]; rfl) fun o own => ?_
      obtain rfl := Option.some.inj own
      refine ⟨List.mem_cons_self, ?_⟩
      rw [← h.length, List.getElem?_concat_length]

/-- Taking an instrument back. -/
theorem Accords.move_undo (h : Accords m base s l) (k : Nat) :
    Accords m base (s.move m (.undo k)) (l.enter (.undo k)) := by
  obtain ⟨owner, marked, held, owned, owns⟩ := h.owned
  cases found : s.made[k]? with
  | none =>
    have beyond : ¬ k < l.made := by
      rw [← h.length]
      exact Nat.not_lt_of_le (List.getElem?_eq_none_iff.1 found)
    have done : s.move m (.undo k) = s := by rw [Stage.move, found]
    rw [done, Ledger.enter, if_neg beyond]
    exact h
  | some x =>
    obtain ⟨r, enabled⟩ := x
    obtain rfl := h.numbered k r enabled found
    have below := h.lt_of_get found
    have enables (own : owner = some k) : enabled = true :=
      (Prod.mk.inj (Option.some.inj (found.symm.trans (owns k own).2))).2
    obtain ⟨site', undone, owned', same⟩ := owned.uninstrument below enables
    have done : s.move m (.undo k) = ⟨site', s.made⟩ := by
      rw [Stage.move, found]
      dsimp only
      rw [undone]
    rw [done, Ledger.enter, if_pos below]
    refine ⟨h.length, same.trans h.counted, h.numbered, _, false, by rw [held]; rfl, owned', ?_⟩
    intro o own
    by_cases other : owner = some k
    · rw [if_pos other] at own
      exact absurd own (by simp)
    · rw [if_neg other] at own
      obtain ⟨pending, found'⟩ := owns o own
      refine ⟨List.mem_filter.2 ⟨pending, ?_⟩, found'⟩
      have apart : o ≠ k := fun same => other (own.trans (congrArg some same))
      exact decide_eq_true apart

/-- A move that does not put an instrument around another one does to the site what it does to the
ledger. -/
theorem Accords.move (h : Accords m base s l) (v : Move)
    (single : (l.enter v).tenure ≠ .doubled) : Accords m base (s.move m v) (l.enter v) := by
  cases v with
  | make i enabled => exact h.move_make i enabled single
  | undo k => exact h.move_undo k

theorem Accords.play (h : Accords m base s l) (moves : List Move)
    (single : (moves.foldl Ledger.enter l).tenure ≠ .doubled) :
    Accords m base (s.play m moves) (moves.foldl Ledger.enter l) := by
  induction moves generalizing s l with
  | nil => exact h
  | cons v moves ih =>
    exact ih (h.move v fun doubled => single (Ledger.foldl_doubled doubled moves)) single

/-- At the start nothing is wrapped and nobody owns the function. -/
theorem accords_start {client : LoadedModule} (loaded : site.loaded moduleName = some client)
    (unmarked : client.marked = false) (original : (site.other.modules.get m).sender = some .bare) :
    Accords m (count site) ⟨site, []⟩ (ledger []) where
  length := rfl
  counted := rfl
  numbered k r enabled found := absurd found (by simp)
  owned := by
    refine ⟨none, false, rfl, ⟨fun k => site.other.wrapped.get ⟨k⟩, ?_, ?_⟩, ?_⟩
    · exact ⟨⟨client, loaded, unmarked⟩, original, fun k => rfl⟩
    · exact fun k below => absurd below (Nat.not_lt_zero k)
    · exact fun o own => absurd own (by simp)

/-! ## What it comes to -/

/-- The function is as it is meant to be: one instrument has wrapped it at most, so that a request
starts one span at most, and when every instrument was taken back it is the original. -/
structure Sound (m : Ref ClientModule) (s : Stage) (pending : List Nat) : Prop where
  single : ∃ sender, s.sender m = some sender ∧ sender.wrappers.length ≤ 1 ∧
    ∀ {σ κ : Type} (bare : Sending σ κ), (∀ session q arguments, Starts 0 (bare session q arguments)) →
      ∀ session q arguments, Starts 1 (sendBy bare sender session q arguments)
  restored : pending = [] → s.sender m = some .bare

theorem wrappers_senderOf (base : Nat) (owner : Option Nat) :
    (senderOf base owner).wrappers.length ≤ 1 := by
  cases owner with
  | none => exact Nat.zero_le 1
  | some o => exact Nat.le_refl 1

theorem Accords.sound (h : Accords m base s l) : Sound m s l.pending := by
  obtain ⟨owner, marked, -, owned, owns⟩ := h.owned
  refine ⟨⟨senderOf base owner, owned.sender, wrappers_senderOf base owner, ?_⟩, fun none => ?_⟩
  · intro σ κ bare quiet session q arguments
    exact (starts_sendBy quiet _ session q arguments).of_le (wrappers_senderOf base owner)
  · rw [owned.sender]
    cases owner with
    | none => rfl
    | some o =>
      have pending := (owns o rfl).1
      rw [none] at pending
      exact absurd pending List.not_mem_nil

/-- The move that puts an instrument around another one leaves two of them. -/
theorem Accords.wrappers_of_doubled (h : Accords m base s l) {v : Move}
    (doubled : (l.enter v).tenure = .doubled) :
    ∃ sender, (s.move m v).sender m = some sender ∧ sender.wrappers.length = 2 := by
  obtain ⟨owner, marked, held, ⟨kept, shown, -⟩, -⟩ := h.owned
  obtain ⟨i, o, rfl, told⟩ := Ledger.eq_of_enter_doubled (by rw [held]; simp) doubled
  obtain ⟨rfl, rfl⟩ := Tenure.single.inj (held.symm.trans told)
  obtain ⟨site', made, shown', -⟩ := create_wraps shown i
  refine ⟨.wrapped ⟨count s.site⟩ (senderOf base (some o)), ?_, rfl⟩
  rw [Stage.move, made]
  exact shown'.sender

/-- If an instrument has come around another one, there was a moment with two of them. -/
theorem exists_wrappers_of_doubled (start : Accords m base s (ledger [])) (moves : List Move)
    (doubled : (ledger moves).tenure = .doubled) :
    ∃ before, before <+: moves ∧
      ∃ sender, (s.play m before).sender m = some sender ∧ sender.wrappers.length = 2 := by
  induction moves using List.reverseRecOn with
  | nil => exact Tenure.noConfusion doubled
  | append_singleton moves v ih =>
    by_cases earlier : (ledger moves).tenure = .doubled
    · obtain ⟨before, first, two⟩ := ih earlier
      exact ⟨before, first.trans (List.prefix_append moves [v]), two⟩
    · refine ⟨moves ++ [v], List.prefix_refl _, ?_⟩
      rw [ledger_append] at doubled
      have two := (start.play moves earlier).wrappers_of_doubled doubled
      rwa [Stage.play, List.foldl_append]

/-- Whatever instruments a program makes for a module and whichever of them it takes back: the
function is at every moment as it is meant to be, exactly if the program never makes an enabled
instrument while another one has wrapped the function and the mark is gone. -/
theorem play_sound_iff {client : LoadedModule} (loaded : site.loaded moduleName = some client)
    (unmarked : client.marked = false) (original : (site.other.modules.get m).sender = some .bare)
    (moves : List Move) :
    (∀ before, before <+: moves → Sound m (Stage.play m ⟨site, []⟩ before) (ledger before).pending) ↔
      (ledger moves).tenure ≠ .doubled := by
  have start := accords_start loaded unmarked original
  constructor
  · intro sound doubled
    obtain ⟨before, first, sender, sends, two⟩ := exists_wrappers_of_doubled start moves doubled
    obtain ⟨sender', sends', one, -⟩ := (sound before first).single
    obtain rfl := Option.some.inj (sends.symm.trans sends')
    omega
  · rintro single before ⟨rest, rfl⟩
    rw [ledger_append] at single
    have still : (ledger before).tenure ≠ .doubled :=
      fun doubled => single (Ledger.foldl_doubled doubled rest)
    exact (start.play before still).sound

/-- A site at which the module is loaded and nothing has been done with it. -/
def untouched : Site :=
  (Registry.empty { World.empty with modules := (Store.empty.alloc ⟨some .bare⟩).2 }).setLoaded
    moduleName (some ⟨0, true, true, false⟩)

/-- One instrument after the other, with a disabled one that comes and goes in between. -/
def inTurn : List Move :=
  [.make requestsOnly true, .undo 0, .make requestsOnly false, .undo 1, .make requestsOnly true,
    .undo 2, .undo 2]

theorem play_sound_iff_inTurn :
    Sound ⟨0⟩ (Stage.play ⟨0⟩ ⟨untouched, []⟩ inTurn) (ledger inTurn).pending ∧
      (ledger inTurn).pending = [] := by
  have single : (ledger inTurn).tenure ≠ .doubled := by
    rw [show (ledger inTurn).tenure = .single none false from rfl]
    exact Tenure.noConfusion
  have loaded : untouched.loaded moduleName = some ⟨0, true, true, false⟩ := rfl
  have original : (untouched.other.modules.get ⟨0⟩).sender = some .bare := rfl
  have sound := (play_sound_iff loaded rfl original inTurn).2 single
  exact ⟨sound inTurn (List.prefix_refl _), rfl⟩

/-- While the first instrument is at work, a second one comes and goes, and takes the mark along;
then comes a third one. -/
def overlapping : List Move :=
  [.make requestsOnly true, .make requestsOnly true, .undo 1, .make requestsOnly true]

/-- The third instrument has wrapped what the first one has wrapped.  When all three were taken
back, the function is the one that the first instrument made. -/
theorem overlapping_unsound :
    ((Stage.play ⟨0⟩ ⟨untouched, []⟩ overlapping).sender ⟨0⟩).map Sender.wrappers =
        some [⟨2⟩, ⟨0⟩] ∧
      (ledger (overlapping ++ [.undo 0, .undo 2])).pending = [] ∧
      (Stage.play ⟨0⟩ ⟨untouched, []⟩ (overlapping ++ [.undo 0, .undo 2])).sender ⟨0⟩ =
        some (.wrapped ⟨0⟩ .bare) :=
  ⟨rfl, rfl, rfl⟩

end Client
end HttpTap
