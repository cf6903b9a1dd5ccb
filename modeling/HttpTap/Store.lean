/-!
# Stores of shared objects

Streams, entities, requests and responses are shared: two entities may read the same stream,
and a response is seen by the library and by the program alike.  A shared object lives in a
store and is known by a reference.  A store has a value at every address, so that reading it
never fails; the addresses below `size` have been given out.
-/

namespace HttpTap

/-- The address of an object in a store of `α`. -/
structure Ref (α : Type) where
  index : Nat

/-- References are the same when their addresses are. -/
instance {α : Type} : DecidableEq (Ref α) := fun r q =>
  decidable_of_iff (r.index = q.index) ⟨fun h => by cases r; cases q; simp_all, fun h => h ▸ rfl⟩

/-- The objects of one type. -/
structure Store (α : Type) where
  size : Nat
  cell : Nat → α

namespace Store

variable {α : Type}

/-- A store in which no address has been given out. -/
def empty [Inhabited α] : Store α := ⟨0, fun _ => default⟩

/-- The object at an address. -/
def get (s : Store α) (r : Ref α) : α := s.cell r.index

/-- Put another object at an address. -/
def set (s : Store α) (r : Ref α) (a : α) : Store α :=
  { s with cell := fun i => if i = r.index then a else s.cell i }

/-- The address that is given out next. -/
def next (s : Store α) : Ref α := ⟨s.size⟩

/-- Give out an address for an object. -/
def alloc (s : Store α) (a : α) : Ref α × Store α :=
  (s.next, { size := s.size + 1, cell := fun i => if i = s.size then a else s.cell i })

/-- Has the address been given out? -/
def Has (s : Store α) (r : Ref α) : Prop := r.index < s.size

@[simp] theorem get_set_same (s : Store α) (r : Ref α) (a : α) : (s.set r a).get r = a := by
  simp [get, set]

theorem get_set_other {s : Store α} {r q : Ref α} (h : q ≠ r) (a : α) :
    (s.set r a).get q = s.get q := by
  have : q.index ≠ r.index := fun e => h (by cases q; cases r; simp_all)
  simp [get, set, this]

@[simp] theorem get_alloc_same (s : Store α) (a : α) : (s.alloc a).2.get s.next = a := by
  simp [get, alloc, next]

/-- An object that was there before keeps its place. -/
theorem get_alloc_of_has {s : Store α} {r : Ref α} (h : s.Has r) (a : α) :
    (s.alloc a).2.get r = s.get r := by
  have : r.index ≠ s.size := Nat.ne_of_lt h
  simp [get, alloc, this]

end Store
end HttpTap
