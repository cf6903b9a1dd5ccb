import HttpTap.Fault

/-!
# Work that may fail

Most of what the library does changes a state and may fail: the world that it watches, the registry
of modules, the lines of a log.  A failing piece of work keeps the changes that it has made so far.
`Work.go` runs a piece of work on a state, and the lemmas say what two pieces in a row come to,
whatever the state is.
-/

namespace HttpTap

/-- Something that is done to a state and may fail. -/
abbrev Work (σ : Type) := ExceptT Fault (StateM σ)

namespace Work

variable {σ α β : Type}

/-- Run a piece of work: the outcome, and the state that it leaves. -/
def go (a : Work σ α) (s : σ) : Except Fault α × σ := a s

@[simp] theorem go_pure (x : α) (s : σ) : go (pure x : Work σ α) s = (.ok x, s) := rfl

@[simp] theorem go_throw (f : Fault) (s : σ) : go (throw f : Work σ α) s = (.error f, s) := rfl

/-- Doing one thing after another: a fault of the first ends both. -/
theorem go_bind (a : Work σ α) (f : α → Work σ β) (s : σ) :
    go (a >>= f) s =
      match go a s with
      | (.ok x, s') => go (f x) s'
      | (.error e, s') => (.error e, s') := by
  show (ExceptT.bindCont f (a s).1 : StateM σ _) (a s).2 = _
  unfold go
  cases h : a s with
  | mk r s' => cases r <;> rfl

/-- After a result the rest runs on it, in the state that the first piece has left. -/
theorem go_bind_of_ok {a : Work σ α} {x : α} {s s' : σ} (h : go a s = (.ok x, s'))
    (f : α → Work σ β) : go (a >>= f) s = go (f x) s' := by
  rw [go_bind, h]

theorem go_bind_of_error {a : Work σ α} {e : Fault} {s s' : σ} (h : go a s = (.error e, s'))
    (f : α → Work σ β) : go (a >>= f) s = (.error e, s') := by
  rw [go_bind, h]

/-- A result of both is a result of the second on a result of the first. -/
theorem exists_of_go_bind {a : Work σ α} {f : α → Work σ β} {y : β} {s s' : σ}
    (h : go (a >>= f) s = (.ok y, s')) :
    ∃ x s₁, go a s = (.ok x, s₁) ∧ go (f x) s₁ = (.ok y, s') := by
  rw [go_bind] at h
  cases ran : go a s with
  | mk outcome s₁ =>
    rw [ran] at h
    cases outcome with
    | error e => exact nomatch (Prod.mk.inj h).1
    | ok x => exact ⟨x, s₁, rfl, h⟩

end Work
end HttpTap
