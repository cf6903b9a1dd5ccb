import HttpTap.Stream.Memory

/-!
# Scripted streams

A stand-in takes the place of a foreign stream and does what it was told: hand out a byte string in
pieces, fail when it comes to a certain point, or answer each read with the next entry of a
list, whatever was asked.  It keeps a record of the calls made on it.

A stand-in without a close method cannot be closed at all: closing it is a missing member, and
nothing is recorded.  A stand-in that fails to close is closed all the same.
-/

namespace HttpTap

/-- An entry of a script: a value to hand out, or a fault to raise. -/
abbrev Item := Except Fault Value

/-- The items of a generator, which is at its end once it has failed. -/
def generated : List Item → List Item
  | [] => []
  | .ok v :: is => .ok v :: generated is
  | .error f :: _ => [.error f]

/-- What a stand-in has left to say. -/
inductive Script where
  /-- A byte string, the most that one read may give, and the fault at its end if there is one. -/
  | data (rest : Bytes) (most : Option Int) (atEnd : Option Fault)
  /-- One entry for each read, then no bytes. -/
  | answers (items : List Item)

namespace Script

/-- How many of `available` bytes one read gives. -/
def portion (size : Int) (most : Option Int) (available : Nat) : Nat :=
  let wanted := Memory.share size available
  match most with
  | none => wanted
  | some k => min wanted (Memory.share k available)

/-- One read of a byte string.  At its end a read that asks for something meets the fault. -/
def readData (size : Int) (rest : Bytes) (most : Option Int) (atEnd : Option Fault) :
    Item × Script :=
  match atEnd, rest.isEmpty && size != 0 with
  | some f, true => (.error f, data rest most atEnd)
  | _, _ =>
    let n := portion size most rest.length
    (.ok (.bytes (rest.take n)), data (rest.drop n) most atEnd)

/-- One read of a script. -/
def read (size : Int) : Script → Item × Script
  | data rest most atEnd => readData size rest most atEnd
  | answers [] => (.ok (.bytes []), answers [])
  | answers (i :: is) => (i, answers is)

/-- What an entry weighs: enough to pay for it. -/
def itemWeight (i : Item) : Nat :=
  match i with
  | .ok v => v.byteCount + 1
  | .error _ => 1

theorem cost_le_itemWeight (i : Item) : Value.cost i ≤ itemWeight i := by
  cases i with
  | error f => simp [itemWeight]
  | ok v => simp only [itemWeight, Value.cost]; split <;> omega

/-- What a list of entries weighs. -/
def itemsWeight : List Item → Nat
  | [] => 0
  | i :: is => itemWeight i + itemsWeight is

@[simp] theorem itemsWeight_cons (i : Item) (is : List Item) :
    itemsWeight (i :: is) = itemWeight i + itemsWeight is := by
  simp [itemsWeight]

/-- What a script weighs. -/
def weight : Script → Nat
  | data rest _ _ => 2 * rest.length
  | answers is => itemsWeight is

theorem paid (size : Int) (s : Script) :
    weight (read size s).2 + Value.cost (read size s).1 ≤ weight s := by
  cases s with
  | answers is =>
    cases is with
    | nil => simp [read, weight, Value.cost]
    | cons i is =>
      have := cost_le_itemWeight i
      simp only [read, weight, itemsWeight_cons]
      omega
  | data rest most atEnd =>
    have h := Value.cost_bytes_le (rest.take (portion size most rest.length))
    simp only [read, readData]
    split
    · simp [weight]
    · simp only [weight, List.length_take, List.length_drop] at h ⊢
      omega

end Script

/-- A stream that stands in for a foreign one. -/
structure StandIn where
  name : String
  script : Script
  closed : Bool
  /-- The fault that closing raises, after it has closed. -/
  closeFault : Option Fault
  /-- Does it have a close method? -/
  closable : Bool
  /-- The calls seen, the latest first. -/
  calls : List Call

namespace StandIn

/-- What a read is reported as. -/
def mark : Item → Mark
  | .error f => .failed f.kind
  | .ok .null => .nothing
  | .ok v => match v.length? with
    | some n => .length n
    | none => .unsized

/-- One read. -/
def read (size : Int) (d : StandIn) : Item × StandIn :=
  if d.closed then
    let i : Item := .error .closedStream
    (i, { d with calls := .read d.name size (mark i) :: d.calls })
  else
    let (i, script) := d.script.read size
    (i, { d with script := script, calls := .read d.name size (mark i) :: d.calls })

/-- Close the stand-in. -/
def close (d : StandIn) : Except Fault Unit × StandIn :=
  if d.closable then
    let d := { d with closed := true, calls := .close d.name :: d.calls }
    match d.closeFault with
    | some f => (.error f, d)
    | none => (.ok (), d)
  else (.error (.noMember "stream" "close"), d)

/-- A stand-in as a stream. -/
def reader : Reader StandIn where
  read := read
  into cells := read cells
  close := close
  weight d := d.script.weight
  calls d := d.calls
  paid size d := by
    unfold read
    split
    · simp
    · exact d.script.paid size

end StandIn
end HttpTap
