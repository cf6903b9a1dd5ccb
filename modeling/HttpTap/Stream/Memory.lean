import HttpTap.Stream.Reader

/-!
# Bytes in memory

The plainest stream: a byte string and what is left of it.  It hands out exactly what it is
asked for as long as there is enough, and refuses to be read once it is closed.  That a number is no
size it finds out first.
-/

namespace HttpTap

/-- A byte string being read. -/
structure Memory where
  rest : Bytes
  closed : Bool

namespace Memory

/-- A fresh reading of a byte string. -/
def ofBytes (bs : Bytes) : Memory := ⟨bs, false⟩

/-- How many of `available` bytes a read of the given size takes. -/
def share (size : Int) (available : Nat) : Nat :=
  if size < 0 then available else min size.toNat available

/-- Take bytes from the front, unless the stream is closed. -/
def take (size : Int) (m : Memory) : Except Fault Value × Memory :=
  if m.closed then (.error .closedStream, m)
  else
    let n := share size m.rest.length
    (.ok (.bytes (m.rest.take n)), { m with rest := m.rest.drop n })

/-- What is taken is paid for. -/
theorem paid_take (size : Int) (m : Memory) :
    2 * (take size m).2.rest.length + Value.cost (take size m).1 ≤ 2 * m.rest.length := by
  unfold take
  split
  · simp
  · have h := Value.cost_bytes_le (m.rest.take (share size m.rest.length))
    simp only [List.length_take, List.length_drop] at h ⊢
    omega

/-- One read. -/
def read (size : Int) (m : Memory) : Except Fault Value × Memory :=
  if isSize size then take size m else (.error noSize, m)

/-- Bytes in memory as a stream: each byte weighs two, one for itself and one for the answer
that it may be in. -/
def reader : Reader Memory where
  read := read
  into cells := take cells
  close m := (.ok (), { m with closed := true })
  weight m := 2 * m.rest.length
  calls _ := []
  paid size m := by
    unfold read
    split
    · exact paid_take size m
    · simp

end Memory
end HttpTap
