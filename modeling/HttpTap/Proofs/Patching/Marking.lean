import HttpTap.Proofs.Patching.Moves
import Mathlib.Data.List.Infix

/-!
# What a mark says

The mark on a module can be seen, and what was done to the module cannot.  So the mark stands for
the past: it is there exactly if a patch that was called on the module has returned since the last
withdrawal, and as long as it is there no other patch is called.

The tale of a module is what has happened to it, and `since` is the part of it after the last
withdrawal.  `Page.Sound` says what the mark, the registered patch and the tale on a page have to
do with each other.  Each line that registering, withdrawing or loading can write keeps it, and so
it is true of every page after any number of moves.
-/

namespace HttpTap

namespace PatchEvent

variable {P : Type}

/-- Was a patch withdrawn? -/
def isWithdrawal : PatchEvent P → Bool
  | .withdrawn _ => true
  | _ => false

/-- Did a patch return that was called on the object? -/
def appliesTo (object : Nat) : PatchEvent P → Bool
  | .applied _ _ o => o = object
  | _ => false

theorem object?_of_appliesTo {e : PatchEvent P} {object : Nat} (h : e.appliesTo object = true) :
    e.object? = some object := by
  cases e with
  | applied p n o => exact congrArg some (of_decide_eq_true h)
  | _ => exact absurd h nofun

end PatchEvent

namespace Registry

open Patching

variable {P σ : Type} {r r' : Registry P σ} {n : ModuleName} {m : LoadedModule} {p : P}
  {effect : P → ModuleName → ExceptT Fault (StateM σ) Unit} {t : List (PatchEvent P)}
  {e : PatchEvent P} {o next high : Nat} {g g' : Page P} {source : Option ModuleSource}

/-! ## Tales -/

/-- What happened since the last withdrawal. -/
def since (t : List (PatchEvent P)) : List (PatchEvent P) := t.takeWhile (!·.isWithdrawal)

theorem since_cons_of_not (h : e.isWithdrawal = false) : since (e :: t) = e :: since t :=
  List.takeWhile_cons_of_pos (by rw [h]; rfl)

theorem since_cons_of_withdrawal (h : e.isWithdrawal = true) : since (e :: t) = [] :=
  List.takeWhile_cons_of_neg (by rw [h]; exact Bool.false_ne_true)

/-- Between two withdrawals one patch at most returns on an object. -/
def Once (t : List (PatchEvent P)) : Prop :=
  ∀ stretch, stretch <:+: t → stretch.all (!·.isWithdrawal) = true →
    ∀ o, stretch.countP (·.appliesTo o) ≤ 1

theorem Once.nil : Once ([] : List (PatchEvent P)) := by
  intro stretch inside _ o
  rw [List.infix_nil.1 inside]
  exact Nat.zero_le 1

/-- A tale goes on so if it does since the last withdrawal. -/
theorem Once.cons (h : Once t) (now : ∀ o, (since (e :: t)).countP (·.appliesTo o) ≤ 1) :
    Once (e :: t) := by
  intro stretch inside quiet o
  rcases List.infix_cons_iff.1 inside with ⟨rest, whole⟩ | earlier
  · have front : stretch.Sublist (since (e :: t)) := by
      rw [← whole, since, List.takeWhile_append_of_pos (List.all_eq_true.1 quiet)]
      exact List.sublist_append_left ..
    exact (front.countP_le).trans (now o)
  · exact h stretch earlier quiet o

theorem Once.since_le (h : Once t) (o : Nat) : (since t).countP (·.appliesTo o) ≤ 1 :=
  h _ (List.takeWhile_prefix _).isInfix (List.all_takeWhile) o

theorem Once.cons_of_quiet (h : Once t) (quiet : ∀ o, e.appliesTo o = false) : Once (e :: t) := by
  refine h.cons fun o => ?_
  cases withdrawn : e.isWithdrawal with
  | true =>
    rw [since_cons_of_withdrawal withdrawn]
    exact Nat.zero_le 1
  | false =>
    rw [since_cons_of_not withdrawn, List.countP_cons_of_neg (by rw [quiet o]; exact nofun)]
    exact h.since_le o

theorem Once.cons_applied (h : Once t) (first : ∀ e ∈ since t, e.appliesTo o = false) :
    Once (.applied p n o :: t) := by
  refine h.cons fun o' => ?_
  rw [since_cons_of_not rfl]
  by_cases same : o = o'
  · subst same
    rw [List.countP_cons_of_pos (by simp [PatchEvent.appliesTo]),
      List.countP_eq_zero.2 fun e here => by rw [first e here]; exact nofun]
  · rw [List.countP_cons_of_neg (by simpa [PatchEvent.appliesTo] using same)]
    exact h.since_le o'

/-! ## Pages -/

/-- What the lines on a page have to do with the tale on it.  The objects in the tale, and the one
that is loaded, have numbers that are given out. -/
structure Page.Sound (n : ModuleName) (source : Option ModuleSource) (next : Nat) (g : Page P) :
    Prop where
  numbered : ∀ e ∈ g.tale, ∀ o, e.object? = some o → o < next
  there : ∀ m, g.loaded = some m → m.object < next
  once : Once g.tale
  marked : ∀ m, g.loaded = some m → m.marked = (since g.tale).any (·.appliesTo m.object)
  unmarked : ∀ m p, g.loaded = some m → g.patch = some p → m.marked = false →
    g.tale.head? = some (.called p n m.object false) ∨
      source = some .directory ∧ ∀ e ∈ g.tale, e.object? ≠ some m.object

theorem Page.Sound.mono (h : g.Sound n source next) (le : next ≤ high) :
    g.Sound n source high where
  numbered e here o object := Nat.lt_of_lt_of_le (h.numbered e here o object) le
  there m loaded := Nat.lt_of_lt_of_le (h.there m loaded) le
  once := h.once
  marked := h.marked
  unmarked := h.unmarked

/-- Nothing has happened to an object whose number was not given out. -/
theorem Page.Sound.untouched (h : g.Sound n source next) (new : next ≤ o) :
    ∀ e ∈ g.tale, e.object? ≠ some o :=
  fun e here object => Nat.not_lt_of_le new (h.numbered e here o object)

theorem Page.Sound.unapplied (h : g.Sound n source next) (new : next ≤ o) :
    ∀ e ∈ since g.tale, e.appliesTo o = false := by
  intro e here
  rw [← Bool.not_eq_true]
  exact fun applies => h.untouched new e ((List.takeWhile_sublist _).subset here)
    (PatchEvent.object?_of_appliesTo applies)

/-- One more event on an object whose number was given out. -/
theorem numbered_cons (h : ∀ e ∈ t, ∀ o, e.object? = some o → o < next)
    (here : ∀ o, e.object? = some o → o < next) :
    ∀ e' ∈ e :: t, ∀ o, e'.object? = some o → o < next :=
  List.forall_mem_cons.2 ⟨here, h⟩

theorem any_eq_false (h : ∀ e ∈ t, e.appliesTo o = false) : t.any (·.appliesTo o) = false :=
  List.any_eq_false.2 fun e here => by rw [h e here]; exact nofun

/-- A page on which a module is loaded is sound if the module fits the tale. -/
theorem Page.Sound.of_loaded (loaded : g.loaded = some m)
    (numbered : ∀ e ∈ g.tale, ∀ o, e.object? = some o → o < next) (there : m.object < next)
    (once : Once g.tale) (marked : m.marked = (since g.tale).any (·.appliesTo m.object))
    (unmarked : ∀ p, g.patch = some p → m.marked = false →
      g.tale.head? = some (.called p n m.object false) ∨
        source = some .directory ∧ ∀ e ∈ g.tale, e.object? ≠ some m.object) :
    g.Sound n source next := by
  have only {m' : LoadedModule} (loaded' : g.loaded = some m') : m = m' :=
    Option.some.inj (loaded.symm.trans loaded')
  exact
    { numbered
      there := fun m' loaded' => only loaded' ▸ there
      once
      marked := fun m' loaded' => only loaded' ▸ marked
      unmarked := fun m' p loaded' => only loaded' ▸ unmarked p }

theorem Page.Sound.of_unloaded (unloaded : g.loaded = none)
    (numbered : ∀ e ∈ g.tale, ∀ o, e.object? = some o → o < next) (once : Once g.tale) :
    g.Sound n source next where
  numbered := numbered
  there _ loaded := nomatch unloaded.symm.trans loaded
  once := once
  marked _ loaded := nomatch unloaded.symm.trans loaded
  unmarked _ _ loaded := nomatch unloaded.symm.trans loaded

/-- A patch that has just returned on an object has returned since the last withdrawal. -/
theorem any_since_applied (p : P) (n : ModuleName) (o : Nat) (t : List (PatchEvent P)) :
    (since (.applied p n o :: t)).any (·.appliesTo o) = true := by
  rw [since_cons_of_not rfl, List.any_cons]
  simp [PatchEvent.appliesTo]

/-- The marks tell what happened, whatever patch is registered next. -/
theorem Page.Sound.registers (h : g.Sound n source next)
    (tries : Tries n p { g with patch := some p } g') : g'.Sound n source next := by
  cases tries with
  | idle marked =>
    refine ⟨h.numbered, h.there, h.once, h.marked, fun m q loaded _ unmarked => ?_⟩
    exact absurd ((marked m loaded).symm.trans unmarked) nofun
  | raised m loaded unmarked =>
    have given (o : Nat) (here : some m.object = some o) : o < next :=
      Option.some.inj here ▸ h.there m loaded
    refine .of_loaded (m := m) loaded (numbered_cons h.numbered given) (h.there m loaded)
      (h.once.cons_of_quiet fun _ => rfl) (h.marked m loaded) fun q patch _ => .inl ?_
    obtain rfl := Option.some.inj patch
    rfl
  | returned m loaded unmarked =>
    have given (o : Nat) (here : some m.object = some o) : o < next :=
      Option.some.inj here ▸ h.there m loaded
    -- Nothing was applied to the object since the last withdrawal, for it carries no mark.
    have first : ∀ e ∈ since (.called p n m.object false :: g.tale),
        e.appliesTo m.object = false := by
      have none := h.marked m loaded
      rw [unmarked] at none
      rw [since_cons_of_not rfl]
      exact List.forall_mem_cons.2 ⟨rfl, by simpa using none.symm⟩
    exact .of_loaded rfl (numbered_cons (numbered_cons h.numbered given) given) (h.there m loaded)
      ((h.once.cons_of_quiet fun _ => rfl).cons_applied first)
      (any_since_applied p n m.object _).symm fun _ _ unmarked' => absurd unmarked' nofun

/-- Withdrawing takes the mark away and begins the tale anew. -/
theorem Page.Sound.withdraws (h : g.Sound n source next) :
    Page.Sound n source next
      { g with
        patch := none
        loaded := g.loaded.map fun m => { m with marked := false }
        tale := .withdrawn n :: g.tale } where
  numbered := numbered_cons h.numbered nofun
  there := by
    intro m loaded
    obtain ⟨m', loaded', rfl⟩ := Option.map_eq_some_iff.1 loaded
    exact h.there m' loaded'
  once := h.once.cons_of_quiet fun _ => rfl
  marked := by
    intro m loaded
    obtain ⟨m', loaded', rfl⟩ := Option.map_eq_some_iff.1 loaded
    rw [since_cons_of_withdrawal rfl]
    rfl
  unmarked := nofun

/-- A module that is loaded is a new object, to which nothing was applied before. -/
theorem Page.Sound.loads (h : g.Sound n source next) (le : next ≤ high)
    (loads : Loads n source next high g g') : g'.Sound n source high := by
  have wider := h.mono le
  have given {object : Nat} (below : object < high) (o : Nat) (here : some object = some o) :
      o < high := Option.some.inj here ▸ below
  cases loads with
  | missing => exact wider
  | bare bare object new =>
    exact .of_loaded rfl wider.numbered new.2 h.once (any_eq_false (h.unapplied new.1)).symm
      fun _ _ _ => .inr ⟨bare, h.untouched new.1⟩
  | broken object new =>
    exact .of_unloaded rfl (numbered_cons wider.numbered (given new.2))
      (h.once.cons_of_quiet fun _ => rfl)
  | raised p patch object new =>
    exact .of_unloaded rfl
      (numbered_cons (numbered_cons wider.numbered (given new.2)) (given new.2))
      ((h.once.cons_of_quiet fun _ => rfl).cons_of_quiet fun _ => rfl)
  | unpatched none object new isPackage =>
    exact .of_loaded rfl (numbered_cons wider.numbered (given new.2)) new.2
      (h.once.cons_of_quiet fun _ => rfl) (any_eq_false (h.unapplied new.1)).symm
      fun _ patch _ => absurd (none.symm.trans patch) nofun
  | returned p patch object new isPackage =>
    have first : ∀ e ∈ since (.called p n object false :: .executed n object :: g.tale),
        e.appliesTo object = false := by
      rw [since_cons_of_not rfl, since_cons_of_not rfl]
      exact List.forall_mem_cons.2 ⟨rfl, List.forall_mem_cons.2 ⟨rfl, h.unapplied new.1⟩⟩
    have begun := numbered_cons (e := .executed n object) wider.numbered (given new.2)
    exact .of_loaded rfl (numbered_cons (numbered_cons begun (given new.2)) (given new.2)) new.2
      (((h.once.cons_of_quiet fun _ => rfl).cons_of_quiet fun _ => rfl).cons_applied first)
      (any_since_applied p n object _).symm fun _ _ unmarked => absurd unmarked nofun

/-! ## Registries -/

/-- Every page tells what happened. -/
def Sound (r : Registry P σ) : Prop :=
  ∀ n, (r.page n).Sound n (r.shelf.find? n) r.nextObject

theorem Sound.of_spares (h : r.Sound) (spares : Spares n r r')
    (here : (r'.page n).Sound n (r.shelf.find? n) r'.nextObject) : r'.Sound := by
  intro k
  rw [spares.shelf]
  by_cases same : k = n
  · subst same
    exact here
  · rw [spares.others k same]
    exact (h k).mono spares.next

theorem Sound.of_chain {ns : List ModuleName} (h : r.Sound) (chain : Chain ns r r') : r'.Sound := by
  induction chain with
  | start r => exact h
  | load n before absent loads ih =>
    exact (ih h).of_spares loads.spares ((ih h n).loads loads.spares.next loads.loads)

/-- The page of a module after a patch was registered. -/
theorem register_tries (effect : P → ModuleName → ExceptT Fault (StateM σ) Unit) (n : ModuleName)
    (p : P) (r : Registry P σ) :
    Spares n r (after effect r (.register n p)) ∧
      Tries n p { r.page n with patch := some p } ((after effect r (.register n p)).page n) := by
  obtain ⟨spares, tries⟩ := applyPatch_tries p n (effect p n) (r.setPatch n (some p))
  rw [page_setPatch_same] at tries
  have entered : Spares n r (r.setPatch n (some p)) := (Spares.refl n r).setPatch _
  exact ⟨⟨spares.shelf, spares.next, fun k other =>
    (spares.others k other).trans (entered.others k other)⟩, tries⟩

theorem spares_withdraw (effect : P → ModuleName → ExceptT Fault (StateM σ) Unit) (n : ModuleName)
    (r : Registry P σ) : Spares n r (after effect r (.withdraw n)) :=
  (((Spares.refl n r).setPatch none).setMark false).note rfl

theorem page_withdraw (effect : P → ModuleName → ExceptT Fault (StateM σ) Unit) (n : ModuleName)
    (r : Registry P σ) : (after effect r (.withdraw n)).page n =
      { r.page n with
        patch := none
        loaded := (r.loaded n).map fun m => { m with marked := false }
        tale := .withdrawn n :: (r.page n).tale } := by
  show (((r.setPatch n none).setMark n false).note (.withdrawn n)).page n = _
  rw [page_note_same (n := n) rfl, page_setMark_same, page_setPatch_same]
  rfl

theorem Sound.after (h : r.Sound) (effect : P → ModuleName → ExceptT Fault (StateM σ) Unit)
    (v : Move P) : (r.after effect v).Sound := by
  cases v with
  | register n p =>
    obtain ⟨spares, tries⟩ := register_tries effect n p r
    exact h.of_spares spares (((h n).registers tries).mono spares.next)
  | withdraw n =>
    refine h.of_spares (spares_withdraw effect n r) ?_
    rw [page_withdraw]
    exact ((h n).withdraws).mono (spares_withdraw effect n r).next
  | load n =>
    obtain ⟨ns, -, chain⟩ := (import_imported effect n.parts r).row
    exact h.of_chain chain

theorem Sound.play (h : r.Sound) (effect : P → ModuleName → ExceptT Fault (StateM σ) Unit)
    (moves : List (Move P)) : (r.play effect moves).Sound := by
  induction moves generalizing r with
  | nil => exact h
  | cons v moves ih => exact ih (h.after effect v)

end Registry
end HttpTap
