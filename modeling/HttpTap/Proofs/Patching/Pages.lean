import HttpTap.Patching.Loading
import HttpTap.Proofs.Patching.Applying

/-!
# The page of a module

What there is to know about one module stands in three places: the patch that is registered under
its name, the object that is loaded under it, and what has happened to it so far.  Together they
are the *page* of the module, and the registry is a book of such pages.

Here the patches act on the rest of the program and leave the registry alone; `outside` says so.
Registering, withdrawing and loading then write on a single page, `Spares` being the other pages,
and what they write is listed: `Tries` for a patch that is put to a module, `Loads` for a module
that is looked for and loaded.  The lists are complete, so that a property of pages holds from
then on if each of their lines keeps it.
-/

namespace HttpTap

namespace PatchEvent

variable {P : Type}

/-- The module that something happened to. -/
def subject : PatchEvent P → ModuleName
  | .executed n _ | .called _ n _ _ | .applied _ n _ | .withdrawn n | .undone _ n => n

/-- The object that something happened to. -/
def object? : PatchEvent P → Option Nat
  | .executed _ o | .called _ _ o _ | .applied _ _ o => some o
  | .withdrawn _ | .undone .. => none

end PatchEvent

namespace Registry

open Patching

variable {P σ : Type} {r r' : Registry P σ} {k n : ModuleName} {p : P} {m : LoadedModule}
  {e : PatchEvent P} {a : ExceptT Fault (StateM σ) Unit} {s : σ} {f : Fault}

/-- What a patch does that leaves the registry alone. -/
def outside (a : ExceptT Fault (StateM σ) Unit) : Patching P σ Unit := fun r =>
  let (result, other) := a r.other
  (result, { r with other })

theorem go_outside {x : Except Fault Unit} (h : a r.other = (x, s)) :
    go (outside a) r = (x, { r with other := s }) :=
  congrArg (fun y : Except Fault Unit × σ => (y.1, { r with other := y.2 })) h

/-- What is known about one module. -/
structure Page (P : Type) where
  patch : Option P
  loaded : Option LoadedModule
  /-- What has happened to the module, the latest first. -/
  tale : List (PatchEvent P)

/-- The page of a module. -/
def page (r : Registry P σ) (n : ModuleName) : Page P :=
  ⟨r.patches n, r.loaded n, r.history.filter (·.subject = n)⟩

/-! ## Writing on one page -/

theorem page_setPatch_same (p : Option P) :
    (r.setPatch n p).page n = { r.page n with patch := p } := by
  rw [page, patches_setPatch_same]
  rfl

theorem page_setLoaded_same (m : Option LoadedModule) :
    (r.setLoaded n m).page n = { r.page n with loaded := m } := by
  rw [page, loaded_setLoaded_same]
  rfl

theorem page_setMark_same (marked : Bool) :
    (r.setMark n marked).page n =
      { r.page n with loaded := (r.loaded n).map fun m => { m with marked } } :=
  page_setLoaded_same _

theorem page_note_same (about : e.subject = n) :
    (r.note e).page n = { r.page n with tale := e :: (r.page n).tale } := by
  have noted : (r.note e).history.filter (·.subject = n) = e :: (r.page n).tale :=
    List.filter_cons_of_pos (decide_eq_true about)
  rw [page, noted]
  rfl

/-- Nothing is written on the pages of other modules, what can be loaded stays the same, and the
numbers of objects go up. -/
structure Spares (n : ModuleName) (r r' : Registry P σ) : Prop where
  shelf : r'.shelf = r.shelf
  next : r.nextObject ≤ r'.nextObject
  others : ∀ k, k ≠ n → r'.page k = r.page k

theorem Spares.refl (n : ModuleName) (r : Registry P σ) : Spares n r r :=
  ⟨rfl, Nat.le_refl _, fun _ _ => rfl⟩

theorem Spares.setPatch (h : Spares n r r') (p : Option P) : Spares n r (r'.setPatch n p) := by
  refine ⟨h.shelf, h.next, fun k other => ?_⟩
  rw [← h.others k other, page, patches_setPatch_other _ other]
  rfl

theorem Spares.setLoaded (h : Spares n r r') (m : Option LoadedModule) :
    Spares n r (r'.setLoaded n m) := by
  refine ⟨h.shelf, h.next, fun k other => ?_⟩
  rw [← h.others k other, page, loaded_setLoaded_other _ other]
  rfl

theorem Spares.setMark (h : Spares n r r') (marked : Bool) : Spares n r (r'.setMark n marked) :=
  h.setLoaded _

theorem Spares.note (h : Spares n r r') (about : e.subject = n) : Spares n r (r'.note e) := by
  refine ⟨h.shelf, h.next, fun k other => ?_⟩
  have unseen : (r'.note e).history.filter (·.subject = k) = (r'.page k).tale :=
    List.filter_cons_of_neg (by simpa [about] using other.symm)
  rw [← h.others k other, page, unseen]
  rfl

/-- What the patches change, and what is said to the log, is on no page. -/
theorem Spares.of_same (h : Spares n r r') {r'' : Registry P σ} (shelf : r''.shelf = r'.shelf)
    (next : r'.nextObject ≤ r''.nextObject) (pages : ∀ k, r''.page k = r'.page k) :
    Spares n r r'' :=
  ⟨shelf.trans h.shelf, Nat.le_trans h.next next, fun k other => (pages k).trans (h.others k other)⟩

/-! ## Putting a patch to a module -/

/-- The registry after a patch was called and has done its part. -/
def called (r : Registry P σ) (p : P) (n : ModuleName) (object : Nat) (s : σ) : Registry P σ :=
  { r.note (.called p n object false) with other := s }

/-- The registry after a patch returned. -/
def applied (r : Registry P σ) (p : P) (n : ModuleName) (object : Nat) (s : σ) : Registry P σ :=
  (((r.called p n object s).setMark n true).note (.applied p n object)).say (patchedLine n)

theorem page_called (object : Nat) (s : σ) : (r.called p n object s).page n =
    { r.page n with tale := .called p n object false :: (r.page n).tale } :=
  page_note_same (r := r) (n := n) (e := .called p n object false) rfl

theorem page_applied (object : Nat) (s : σ) : (r.applied p n object s).page n =
    { r.page n with
      loaded := (r.loaded n).map fun m => { m with marked := true }
      tale := .applied p n object :: .called p n object false :: (r.page n).tale } := by
  show (((r.called p n object s).setMark n true).note (.applied p n object)).page n = _
  rw [page_note_same (n := n) (e := .applied p n object) rfl, page_setMark_same, page_called]
  rfl

theorem Spares.called (h : Spares n r r') (p : P) (object : Nat) (s : σ) :
    Spares n r (r'.called p n object s) :=
  (h.note (e := .called p n object false) rfl).of_same rfl (Nat.le_refl _) fun _ => rfl

theorem Spares.applied (h : Spares n r r') (p : P) (object : Nat) (s : σ) :
    Spares n r (r'.applied p n object s) :=
  (((h.called p object s).setMark true).note rfl).of_same rfl (Nat.le_refl _) fun _ => rfl

/-- A patch is not put to a module that is marked or not there. -/
theorem go_applyPatch_of_idle {work : Patching P σ Unit}
    (idle : ∀ m, r.loaded n = some m → m.marked = true) :
    go (applyPatch p n work) r = (.ok (), r) := by
  rw [applyPatch, go_get_bind]
  cases loaded : r.loaded n with
  | none => rfl
  | some m =>
    dsimp only
    rw [if_pos (idle m loaded)]
    rfl

theorem go_applyPatch_of_returned (loaded : r.loaded n = some m) (unmarked : m.marked = false)
    (done : a r.other = (.ok (), s)) :
    go (applyPatch p n (outside a)) r = (.ok (), r.applied p n m.object s) := by
  have worked : go (outside a) (r.note (.called p n m.object m.marked)) =
      (.ok (), { r.note (.called p n m.object m.marked) with other := s }) := go_outside done
  rw [applyPatch, go_get_bind, loaded]
  dsimp only
  rw [if_neg (by rw [unmarked]; exact Bool.false_ne_true), go_modify_bind, go_bind_of_ok worked,
    unmarked]
  rfl

theorem go_applyPatch_of_raised (loaded : r.loaded n = some m) (unmarked : m.marked = false)
    (failed : a r.other = (.error f, s)) :
    go (applyPatch p n (outside a)) r = (.error f, r.called p n m.object s) := by
  have worked : go (outside a) (r.note (.called p n m.object m.marked)) =
      (.error f, { r.note (.called p n m.object m.marked) with other := s }) := go_outside failed
  rw [applyPatch, go_get_bind, loaded]
  dsimp only
  rw [if_neg (by rw [unmarked]; exact Bool.false_ne_true), go_modify_bind,
    go_bind_of_error worked, unmarked]
  rfl

/-- What putting a patch to a module writes on its page. -/
inductive Tries (n : ModuleName) (p : P) (g : Page P) : Page P → Prop
  | idle (marked : ∀ m, g.loaded = some m → m.marked = true) : Tries n p g g
  | raised (m : LoadedModule) (loaded : g.loaded = some m) (unmarked : m.marked = false) :
    Tries n p g { g with tale := .called p n m.object false :: g.tale }
  | returned (m : LoadedModule) (loaded : g.loaded = some m) (unmarked : m.marked = false) :
    Tries n p g
      { g with
        loaded := some { m with marked := true }
        tale := .applied p n m.object :: .called p n m.object false :: g.tale }

theorem applyPatch_tries (p : P) (n : ModuleName) (a : ExceptT Fault (StateM σ) Unit)
    (r : Registry P σ) :
    Spares n r (go (applyPatch p n (outside a)) r).2 ∧
      Tries n p (r.page n) ((go (applyPatch p n (outside a)) r).2.page n) := by
  by_cases idle : ∀ m, r.loaded n = some m → m.marked = true
  · rw [go_applyPatch_of_idle idle]
    exact ⟨.refl n r, .idle idle⟩
  · obtain ⟨m, loaded, unmarked⟩ : ∃ m, r.loaded n = some m ∧ m.marked = false := by
      simpa using idle
    rcases run : a r.other with ⟨f | ⟨⟨⟩⟩, s⟩
    · rw [go_applyPatch_of_raised loaded unmarked run]
      refine ⟨(Spares.refl n r).called p _ s, ?_⟩
      rw [page_called]
      exact .raised m loaded unmarked
    · rw [go_applyPatch_of_returned loaded unmarked run]
      refine ⟨(Spares.refl n r).applied p _ s, ?_⟩
      rw [page_applied, loaded]
      exact .returned m loaded unmarked

/-! ## Loading one module -/

/-- The registry after an empty object was put under a name. -/
def placed (r : Registry P σ) (n : ModuleName) (isPackage : Bool) : Registry P σ :=
  { r.setLoaded n (some ⟨r.nextObject, isPackage, false, false⟩) with
    nextObject := r.nextObject + 1 }

/-- The registry after the code of a module was begun. -/
def begun (r : Registry P σ) (n : ModuleName) (isPackage : Bool) : Registry P σ :=
  (r.placed n isPackage).note (.executed n r.nextObject)

/-- The registry after the code of a module came to its end. -/
def executed (r : Registry P σ) (n : ModuleName) (isPackage : Bool) : Registry P σ :=
  (r.begun n isPackage).setLoaded n (some ⟨r.nextObject, isPackage, true, false⟩)

theorem page_placed (isPackage : Bool) : (r.placed n isPackage).page n =
    { r.page n with loaded := some ⟨r.nextObject, isPackage, false, false⟩ } :=
  page_setLoaded_same (r := r) _

theorem page_begun (isPackage : Bool) : (r.begun n isPackage).page n =
    { r.page n with
      loaded := some ⟨r.nextObject, isPackage, false, false⟩
      tale := .executed n r.nextObject :: (r.page n).tale } := by
  rw [begun, page_note_same (n := n) rfl, page_placed]

theorem page_executed (isPackage : Bool) : (r.executed n isPackage).page n =
    { r.page n with
      loaded := some ⟨r.nextObject, isPackage, true, false⟩
      tale := .executed n r.nextObject :: (r.page n).tale } := by
  rw [executed, page_setLoaded_same, page_begun]

theorem loaded_executed (isPackage : Bool) :
    (r.executed n isPackage).loaded n = some ⟨r.nextObject, isPackage, true, false⟩ :=
  congrArg Page.loaded (page_executed isPackage)

theorem spares_placed (r : Registry P σ) (n : ModuleName) (isPackage : Bool) :
    Spares n r (r.placed n isPackage) :=
  ((Spares.refl n r).setLoaded _).of_same rfl (Nat.le_succ _) fun _ => rfl

theorem spares_begun (r : Registry P σ) (n : ModuleName) (isPackage : Bool) :
    Spares n r (r.begun n isPackage) :=
  (spares_placed r n isPackage).note rfl

theorem spares_executed (r : Registry P σ) (n : ModuleName) (isPackage : Bool) :
    Spares n r (r.executed n isPackage) :=
  (spares_begun r n isPackage).setLoaded _

theorem go_execute_of_fails (f : Fault) (isPackage : Bool) :
    go (execute n r.nextObject (.fails f)) (r.placed n isPackage) =
      (.error f, r.begun n isPackage) := rfl

theorem go_execute_of_defines (isPackage : Bool) :
    go (execute n r.nextObject .defines) (r.placed n isPackage) =
      (.ok (), r.executed n isPackage) := by
  have begun : (r.begun n isPackage).loaded n = some ⟨r.nextObject, isPackage, false, false⟩ :=
    congrArg Page.loaded (page_begun isPackage)
  show (Except.ok (), (r.begun n isPackage).setLoaded n
    (((r.begun n isPackage).loaded n).map fun m => { m with hasValue := true })) = _
  rw [begun]
  rfl

theorem go_orUnload_of_ok {b : Patching P σ Unit} (h : go b r = (.ok (), r')) :
    go (orUnload n b) r = (.ok (), r') := by
  rw [orUnload, go_tryCatch_of_ok h]

theorem go_orUnload_of_error {b : Patching P σ Unit} (h : go b r = (.error f, r')) :
    go (orUnload n b) r = (.error f, r'.setLoaded n none) := by
  rw [orUnload, go_tryCatch_of_error h]
  rfl

variable {effect : P → ModuleName → ExceptT Fault (StateM σ) Unit} {source : ModuleSource}
  {code : ModuleCode}

/-- What the patches do that leave the registry alone. -/
def outsides (effect : P → ModuleName → ExceptT Fault (StateM σ) Unit) (p : P) (n : ModuleName) :
    Patching P σ Unit :=
  outside (effect p n)

/-- Loading a module with code executes the code and puts the patch to the module, and takes the
module away if one of them fails. -/
theorem go_loadFrom {work : P → ModuleName → Patching P σ Unit}
    (found : Source.code? source = some code) :
    go (loadFrom work n source) r =
      go (orUnload n do
        execute n r.nextObject code
        match r.patches n with
        | some p => applyPatch p n (work p n)
        | none => return) (r.placed n (Source.isPackage source)) := by
  rw [loadFrom, go_get_bind]
  cases source with
  | directory => exact absurd found nofun
  | file c | package c =>
    obtain rfl := Option.some.inj found
    rfl

theorem go_loadFrom_of_fails (found : Source.code? source = some (.fails f)) :
    go (loadFrom (outsides effect) n source) r =
      (.error f, (r.begun n (Source.isPackage source)).setLoaded n none) := by
  rw [go_loadFrom found,
    go_orUnload_of_error (go_bind_of_error (go_execute_of_fails f _) _)]

theorem go_loadFrom_of_unpatched (found : Source.code? source = some .defines)
    (unpatched : r.patches n = none) :
    go (loadFrom (outsides effect) n source) r =
      (.ok (), r.executed n (Source.isPackage source)) := by
  rw [go_loadFrom found, unpatched, go_orUnload_of_ok]
  rw [go_bind_of_ok (go_execute_of_defines _)]
  rfl

theorem go_loadFrom_of_returned (found : Source.code? source = some .defines)
    (patch : r.patches n = some p) (done : effect p n r.other = (.ok (), s)) :
    go (loadFrom (outsides effect) n source) r =
      (.ok (), (r.executed n (Source.isPackage source)).applied p n r.nextObject s) := by
  rw [go_loadFrom found, patch, go_orUnload_of_ok]
  rw [go_bind_of_ok (go_execute_of_defines _)]
  exact go_applyPatch_of_returned (loaded_executed _) rfl done

theorem go_loadFrom_of_raised (found : Source.code? source = some .defines)
    (patch : r.patches n = some p) (failed : effect p n r.other = (.error f, s)) :
    go (loadFrom (outsides effect) n source) r =
      (.error f,
        ((r.executed n (Source.isPackage source)).called p n r.nextObject s).setLoaded n none) := by
  rw [go_loadFrom found, patch, go_orUnload_of_error]
  rw [go_bind_of_ok (go_execute_of_defines _)]
  exact go_applyPatch_of_raised (loaded_executed _) rfl failed

/-- What loading writes on the page of a module; the number of the new object lies in a range of
new numbers. -/
inductive Loads (n : ModuleName) (source : Option ModuleSource) (low high : Nat) (g : Page P) :
    Page P → Prop
  | missing : Loads n source low high g g
  | bare (bare : source = some .directory) (object : Nat) (new : low ≤ object ∧ object < high) :
    Loads n source low high g { g with loaded := some ⟨object, true, false, false⟩ }
  | broken (object : Nat) (new : low ≤ object ∧ object < high) :
    Loads n source low high g { g with loaded := none, tale := .executed n object :: g.tale }
  | unpatched (none : g.patch = none) (object : Nat) (new : low ≤ object ∧ object < high)
      (isPackage : Bool) :
    Loads n source low high g
      { g with
        loaded := some ⟨object, isPackage, true, false⟩
        tale := .executed n object :: g.tale }
  | raised (p : P) (patch : g.patch = some p) (object : Nat) (new : low ≤ object ∧ object < high) :
    Loads n source low high g
      { g with
        loaded := none
        tale := .called p n object false :: .executed n object :: g.tale }
  | returned (p : P) (patch : g.patch = some p) (object : Nat) (new : low ≤ object ∧ object < high)
      (isPackage : Bool) :
    Loads n source low high g
      { g with
        loaded := some ⟨object, isPackage, true, true⟩
        tale := .applied p n object :: .called p n object false :: .executed n object :: g.tale }

/-- A module that was not loaded was looked for, and what came of it.  The module is there if all
went well. -/
structure LoadsAt (n : ModuleName) (r : Registry P σ) (result : Except Fault Unit × Registry P σ) :
    Prop where
  spares : Spares n r result.2
  loads : Loads n (r.shelf.find? n) r.nextObject result.2.nextObject (r.page n) (result.2.page n)
  there : result.1 = .ok () → (result.2.loaded n).isSome = true

theorem loadFrom_loadsAt (effect : P → ModuleName → ExceptT Fault (StateM σ) Unit)
    (found : r.shelf.find? n = some source) :
    LoadsAt n r (go (loadFrom (outsides effect) n source) r) := by
  have new : r.nextObject ≤ r.nextObject ∧ r.nextObject < r.nextObject + 1 :=
    ⟨Nat.le_refl _, Nat.lt_succ_self _⟩
  cases holds : Source.code? source with
  | none =>
    obtain rfl : source = .directory := by
      cases source <;> first | rfl | exact absurd holds nofun
    have bare : go (loadFrom (outsides effect) n .directory) r = (.ok (), r.placed n true) := rfl
    have placed : (r.placed n true).page n = _ := page_placed true
    rw [bare]
    refine ⟨spares_placed r n true, ?_, fun _ => congrArg (Option.isSome ·.loaded) placed⟩
    rw [placed, found]
    exact .bare rfl _ new
  | some code =>
    have spares := spares_executed r n (Source.isPackage source)
    cases code with
    | fails f =>
      rw [go_loadFrom_of_fails holds]
      refine ⟨(spares_begun r n _).setLoaded none, ?_, nofun⟩
      rw [page_setLoaded_same, page_begun]
      exact .broken _ new
    | defines =>
      cases patch : r.patches n with
      | none =>
        rw [go_loadFrom_of_unpatched holds patch]
        refine ⟨spares, ?_, fun _ => congrArg Option.isSome (loaded_executed _)⟩
        rw [page_executed]
        exact .unpatched patch _ new _
      | some p =>
        rcases run : effect p n r.other with ⟨f | ⟨⟨⟩⟩, s⟩
        · rw [go_loadFrom_of_raised holds patch run]
          refine ⟨(spares.called p _ s).setLoaded none, ?_, nofun⟩
          rw [page_setLoaded_same, page_called, page_executed]
          exact .raised p patch _ new
        · have applied := page_applied (r := r.executed n (Source.isPackage source)) (n := n)
            (p := p) r.nextObject s
          rw [loaded_executed] at applied
          rw [go_loadFrom_of_returned holds patch run]
          refine ⟨spares.applied p _ s, ?_, fun _ => congrArg (Option.isSome ·.loaded) applied⟩
          rw [applied, page_executed]
          exact .returned p patch _ new _

theorem findAndLoad_loadsAt (effect : P → ModuleName → ExceptT Fault (StateM σ) Unit)
    (n : ModuleName) (r : Registry P σ) :
    LoadsAt n r (go (findAndLoad (outsides effect) n) r) := by
  rw [findAndLoad, go_get_bind]
  cases found : r.shelf.find? n with
  | none => exact ⟨.refl n r, .missing, nofun⟩
  | some source => exact loadFrom_loadsAt effect found

end Registry
end HttpTap
