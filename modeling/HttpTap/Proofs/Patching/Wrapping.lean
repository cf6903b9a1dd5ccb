import HttpTap.Patching.Client
import HttpTap.Proofs.Patching.Applying
import Mathlib.Logic.Function.Basic
import Mathlib.Tactic.Set

/-!
# Instruments that wrap

What there is to know about the instruments of a client library is in three places: the mark on the
module, the function by which its sessions send, and what each instrument has wrapped.
`Client.Shows` collects them, and the lemmas follow them through the two things that a program can
do.

* Making an instrument wraps the function if the instrument is enabled and the module is not
  marked (`create_wraps`), and otherwise changes none of the three (`create_idles`).
* Taking an instrument back takes the mark away.  If the instrument has wrapped something, this is
  put back (`uninstrument_restores`); otherwise the function stays what it is
  (`uninstrument_idles`).
-/

namespace HttpTap

/-- The instruments that have wrapped the function, the outermost first. -/
def Sender.wrappers : Sender → List (Ref Instrument)
  | .bare => []
  | .wrapped i inner => i :: inner.wrappers

namespace Client

open Patching Registry

/-- The mark on the module, the function by which its sessions send, and what each instrument has
wrapped, by the number of the instrument. -/
structure Shows (m : Ref ClientModule) (site : Site) (marked : Bool) (sender : Sender)
    (held : Nat → Option Sender) : Prop where
  loaded : ∃ client, site.loaded moduleName = some client ∧ client.marked = marked
  sender : (site.other.modules.get m).sender = some sender
  held : ∀ k, site.other.wrapped.get ⟨k⟩ = held k

/-- How many instruments have been made. -/
def count (site : Site) : Nat := site.other.instruments.size

variable {m : Ref ClientModule} {i : Instrument} {site site' : Site} {marked enabled : Bool}
  {sender inner : Sender} {held : Nat → Option Sender} {r : Ref Instrument}

/-- A registry that differs elsewhere shows the same. -/
theorem Shows.of_same (h : Shows m site marked sender held)
    (loaded : site'.loaded = site.loaded) (other : site'.other = site.other) :
    Shows m site' marked sender held :=
  ⟨loaded ▸ h.loaded, other ▸ h.sender, other ▸ h.held⟩

theorem Shows.setMark (h : Shows m site marked sender held) (marked' : Bool) :
    Shows m (site.setMark moduleName marked') marked' sender held := by
  obtain ⟨client, loaded, -⟩ := h.loaded
  refine ⟨⟨{ client with marked := marked' }, ?_, rfl⟩, h.sender, h.held⟩
  rw [loaded_setMark, loaded]
  rfl

theorem Shows.withdrawn (h : Shows m site marked sender held) :
    Shows m (site.withdrawn moduleName) false sender held := by
  have forgotten : Shows m (site.setPatch moduleName none) marked sender held := h.of_same rfl rfl
  exact (forgotten.setMark false).of_same rfl rfl

/-! ## In the world of exchanges -/

theorem go_inWorld {α : Type} {a : Act α} {x : Except Fault α} {w : World}
    (h : Act.go a site.other = (x, w)) : go (inWorld a) site = (x, { site with other := w }) :=
  congrArg (fun y : Except Fault α × World => (y.1, { site with other := y.2 })) h

theorem get_wrapped_set (w : World) (r : Ref Instrument) (s : Option Sender) (k : Nat) :
    (w.wrapped.set ⟨r.index⟩ s).get ⟨k⟩ =
      Function.update (fun k => w.wrapped.get ⟨k⟩) r.index s k := by
  by_cases same : k = r.index
  · subst same
    rw [Store.get_set_same, Function.update_self]
  · rw [Function.update_of_ne same]
    have other : (⟨k⟩ : Ref (Option Sender)) ≠ ⟨r.index⟩ := by
      intro h
      injection h with index
      exact same index
    exact Store.get_set_other other s

/-- The world after an instrument came to remember one function and the sessions of a module to
send by another. -/
def exchanged (w : World) (r : Ref Instrument) (m : Ref ClientModule) (kept : Option Sender)
    (used : Sender) : World :=
  { w with wrapped := w.wrapped.set ⟨r.index⟩ kept, modules := w.modules.set m ⟨some used⟩ }

theorem Shows.exchanged (h : Shows m site marked sender held) (r : Ref Instrument)
    (kept : Option Sender) (used : Sender) (line : LogRecord) :
    Shows m { site with other := (Client.exchanged site.other r m kept used).say line } marked used
      (Function.update held r.index kept) := by
  obtain rfl : held = fun k => site.other.wrapped.get ⟨k⟩ := funext fun k => (h.held k).symm
  refine ⟨h.loaded, ?_, get_wrapped_set site.other r kept⟩
  show ((site.other.modules.set m ⟨some used⟩).get m).sender = some used
  rw [Store.get_set_same]

/-- A new instrument has wrapped nothing. -/
theorem go_addInstrument (h : Shows m site marked sender held) (i : Instrument) :
    ∃ site', go (inWorld (Act.addInstrument i)) site = (.ok ⟨count site⟩, site') ∧
      Shows m site' marked sender (Function.update held (count site) none) ∧
      count site' = count site + 1 := by
  obtain rfl : held = fun k => site.other.wrapped.get ⟨k⟩ := funext fun k => (h.held k).symm
  exact ⟨_, rfl, ⟨h.loaded, h.sender, get_wrapped_set site.other ⟨count site⟩ none⟩, rfl⟩

/-- Wrapping puts the instrument around the function and remembers the function. -/
theorem go_wrapModule (h : Shows m site marked sender held) (r : Ref Instrument) :
    ∃ site', go (inWorld (Act.wrapModule r m)) site = (.ok (), site') ∧
      Shows m site' marked (.wrapped r sender) (Function.update held r.index (some sender)) ∧
      count site' = count site := by
  have wraps : Act.go (Act.wrapModule r m) site.other =
      (.ok (), (exchanged site.other r m (some sender) (.wrapped r sender)).say
        ⟨.info, Act.clientChannel, "requests.Session.send instrumented", none⟩) := by
    rw [Act.wrapModule, Act.go_bind, Act.go_view]
    dsimp only
    rw [h.sender]
    rfl
  exact ⟨_, go_inWorld wraps, h.exchanged r (some sender) (.wrapped r sender) _, rfl⟩

/-- An instrument that has wrapped nothing undoes nothing. -/
theorem go_unwrapModule_of_none (h : Shows m site marked sender held)
    (nothing : held r.index = none) :
    go (inWorld (Act.unwrapModule r m)) site = (.ok (), site) := by
  have idle : Act.go (Act.unwrapModule r m) site.other = (.ok (), site.other) := by
    rw [Act.unwrapModule, Act.go_bind, Act.go_view]
    dsimp only
    rw [h.held, nothing]
    rfl
  exact go_inWorld idle

/-- An instrument that has wrapped something puts it back, whatever is in its place by now. -/
theorem go_unwrapModule_of_some (h : Shows m site marked sender held)
    (something : held r.index = some inner) :
    ∃ site', go (inWorld (Act.unwrapModule r m)) site = (.ok (), site') ∧
      Shows m site' marked inner (Function.update held r.index none) ∧
      count site' = count site := by
  have restores : Act.go (Act.unwrapModule r m) site.other =
      (.ok (), (exchanged site.other r m none inner).say
        ⟨.info, Act.clientChannel, "requests.Session.send restored", none⟩) := by
    rw [Act.unwrapModule, Act.go_bind, Act.go_view]
    dsimp only
    rw [h.held, something]
    dsimp only
    rw [Act.go_bind, Act.go_view]
    dsimp only
    rw [h.sender]
    rfl
  exact ⟨_, go_inWorld restores, h.exchanged r none inner _, rfl⟩

/-! ## Making an instrument -/

/-- A disabled instrument, or one for a marked module, wraps nothing. -/
theorem create_idles (h : Shows m site marked sender held) (i : Instrument)
    (idle : enabled = false ∨ marked = true) :
    ∃ site', go (create m i enabled) site = (.ok ⟨count site⟩, site') ∧
      Shows m site' marked sender (Function.update held (count site) none) ∧
      count site' = count site + 1 := by
  obtain ⟨added, adds, shown, grown⟩ := go_addInstrument h i
  rw [create, go_bind_of_ok adds]
  rcases enabled with - | -
  · rw [go_bind_of_ok (Instrumentation.go_start_of_disabled rfl)]
    exact ⟨_, rfl, shown.of_same rfl rfl, grown⟩
  · rcases idle with disabled | rfl
    · contradiction
    · obtain ⟨client, loaded, there⟩ := shown.loaded
      have starts : go ((instrumentation true).start ⟨count site⟩
          (inWorld (Act.wrapModule ⟨count site⟩ m))) added =
            (.ok (), added.setPatch moduleName (some ⟨count site⟩)) :=
        (Instrumentation.go_start_of_enabled rfl).trans (go_register_of_marked loaded there)
      rw [go_bind_of_ok starts]
      exact ⟨_, rfl, shown.of_same rfl rfl, grown⟩

/-- An enabled instrument for a module without a mark wraps the function and marks the module. -/
theorem create_wraps (h : Shows m site false sender held) (i : Instrument) :
    ∃ site', go (create m i true) site = (.ok ⟨count site⟩, site') ∧
      Shows m site' true (.wrapped ⟨count site⟩ sender)
        (Function.update held (count site) (some sender)) ∧
      count site' = count site + 1 := by
  obtain ⟨added, adds, shown, grown⟩ := go_addInstrument h i
  set r : Ref Instrument := ⟨count site⟩
  obtain ⟨client, loaded, there⟩ := shown.loaded
  have called : Shows m ((added.setPatch moduleName (some r)).note
      (.called r moduleName client.object client.marked)) false sender _ := shown.of_same rfl rfl
  obtain ⟨wrapped, wraps, shown', same⟩ := go_wrapModule called r
  have starts : go ((instrumentation true).start r (inWorld (Act.wrapModule r m))) added =
      (.ok (), ((wrapped.setMark moduleName true).note
        (.applied r moduleName client.object)).say (patchedLine moduleName)) :=
    (Instrumentation.go_start_of_enabled rfl).trans (go_register_of_unmarked loaded there wraps)
  rw [create, go_bind_of_ok adds, go_bind_of_ok starts]
  rw [Function.update_idem] at shown'
  exact ⟨_, rfl, (shown'.setMark true).of_same rfl rfl, same.trans grown⟩

/-! ## Taking it back -/

/-- Taking back a disabled instrument, or one that has wrapped nothing, takes the mark away and
leaves the function what it is. -/
theorem uninstrument_idles (h : Shows m site marked sender held)
    (idle : enabled = false ∨ held r.index = none) :
    ∃ site', go (uninstrument m r enabled) site = (.ok (), site') ∧
      Shows m site' false sender held ∧ count site' = count site := by
  rcases enabled with - | -
  · exact ⟨_, Instrumentation.go_stop_of_disabled rfl, h.withdrawn, rfl⟩
  · rcases idle with disabled | nothing
    · contradiction
    · obtain ⟨client, loaded, -⟩ := h.loaded
      have noted : Shows m ((site.withdrawn moduleName).note (.undone r moduleName)) false sender
        held := h.withdrawn.of_same rfl rfl
      exact ⟨_, (Instrumentation.go_stop_of_enabled rfl loaded).trans
        (go_unwrapModule_of_none noted nothing), noted, rfl⟩

/-- Taking back an enabled instrument puts back what it has wrapped. -/
theorem uninstrument_restores (h : Shows m site marked sender held)
    (something : held r.index = some inner) :
    ∃ site', go (uninstrument m r true) site = (.ok (), site') ∧
      Shows m site' false inner (Function.update held r.index none) ∧
      count site' = count site := by
  obtain ⟨client, loaded, -⟩ := h.loaded
  have noted : Shows m ((site.withdrawn moduleName).note (.undone r moduleName)) false sender
    held := h.withdrawn.of_same rfl rfl
  obtain ⟨site', restores, shown, same⟩ := go_unwrapModule_of_some noted something
  exact ⟨site', (Instrumentation.go_stop_of_enabled rfl loaded).trans restores, shown, same⟩

end Client
end HttpTap
