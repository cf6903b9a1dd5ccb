import HttpTap.Value.Content

/-!
# Streams as readers

A stream is anything that answers a read: it may hand out bytes in pieces of its own choosing,
hand out something that is no bytes at all, or fail.  A `Reader` is such a stream over a state
type.  What makes loops over a reader end is its *weight*: an answer is paid for with weight,
and every answer that keeps a loop going costs at least one (`Value.cost`).  So the loops below
are plain recursion on the weight, without fuel.

## The loops

Four ways of reading are used, and each keeps the state in which the reader is left, also when
it fails part way.

* `drain` appends pieces to a buffer until the reader has no more;
* `collect` does the same with a size in mind, and asks for no more than is missing;
* `pieces` keeps the pieces apart;
* `readBounded` is `collect` with one byte more than the limit, the byte that tells whether the
  stream goes on.

## Sizes

A read is asked for a size, and a size has to fit into a word of the machine.  A stream that finds
out that it does not, or that there is no room for so many bytes, fails without taking anything.

## Calls

A stand-in reports the calls made on it.  They belong to its state, and a reader shows them,
the latest first.
-/

namespace HttpTap

/-- The largest size. -/
def largestSize : Int := Value.countLimit - 1

/-- Does a number fit into a word, so that it can be a size? -/
def isSize (n : Int) : Bool := decide (-Value.countLimit ≤ n ∧ n ≤ largestSize)

theorem isSize_of_pos {n : Int} (pos : 0 < n) (small : n ≤ largestSize) : isSize n = true := by
  have word : 0 ≤ Value.countLimit := by decide
  exact decide_eq_true ⟨by omega, small⟩

/-- What a stream of the machine makes of a number that is no size. -/
def noSize : Fault := .misuse .overflow "cannot fit 'int' into an index-sized integer"

/-- What a stand-in reports of one read. -/
inductive Mark where
  /-- It gave something of this length. -/
  | length (n : Nat)
  /-- It gave nothing at all, which is not the same as no bytes. -/
  | nothing
  /-- It gave something without a length. -/
  | unsized
  | failed (kind : FaultKind)

/-- One call on a stand-in, by the stand-in's name. -/
inductive Call where
  | read (name : String) (size : Int) (mark : Mark)
  | close (name : String)

/-- A stream over the states `σ`. -/
structure Reader (σ : Type) where
  /-- One read.  A size below zero asks for all that is left. -/
  read : Int → σ → Except Fault Value × σ
  /-- One read into so many cells that are there already. -/
  into : Nat → σ → Except Fault Value × σ
  /-- Close the stream. -/
  close : σ → Except Fault Unit × σ
  /-- What is left to pay with. -/
  weight : σ → Nat
  /-- The calls that a stand-in underneath has seen, the latest first. -/
  calls : σ → List Call
  /-- Every answer is paid for. -/
  paid : ∀ size s, weight (read size s).2 + Value.cost (read size s).1 ≤ weight s

/-- What reading to the end came to: the bytes in hand, the fault that ended it if one did, and
the state in which the stream was left. -/
structure Drained (σ : Type) where
  data : Bytes
  fault : Option Fault
  rest : σ

namespace Reader

variable {σ : Type}

/-- A read that gave something leaves less weight behind. -/
theorem weight_lt (r : Reader σ) {size : Int} {s s' : σ} {v : Value}
    (h : r.read size s = (.ok v, s')) (ht : v.truthy = true) : r.weight s' < r.weight s := by
  have := r.paid size s
  rw [h, Value.cost_of_truthy ht] at this
  simp only at this
  omega

/-- Read pieces of at most `size` bytes into a buffer until the stream has no more. -/
def drain (r : Reader σ) (size : Int) (s : σ) : Drained σ :=
  match _h : r.read size s with
  | (.error f, s') => ⟨[], some f, s'⟩
  | (.ok v, s') =>
    if _ht : v.truthy = true then
      match v.appendable with
      | .error f => ⟨[], some f, s'⟩
      | .ok bs =>
        let d := r.drain size s'
        ⟨bs ++ d.data, d.fault, d.rest⟩
    else ⟨[], none, s'⟩
termination_by r.weight s
decreasing_by exact r.weight_lt _h _ht

/-- Read until `missing` more bytes are in hand or the stream has no more.  Each read asks for a
chunk, or for what is missing if that is less. -/
def collect (r : Reader σ) (chunk : Int) (missing : Nat) (s : σ) : Drained σ :=
  if missing = 0 then ⟨[], none, s⟩
  else
    match _h : r.read (min chunk missing) s with
    | (.error f, s') => ⟨[], some f, s'⟩
    | (.ok v, s') =>
      if _ht : v.truthy = true then
        match v.appendable with
        | .error f => ⟨[], some f, s'⟩
        | .ok bs =>
          let d := r.collect chunk (missing - bs.length) s'
          ⟨bs ++ d.data, d.fault, d.rest⟩
      else ⟨[], none, s'⟩
termination_by r.weight s
decreasing_by exact r.weight_lt _h _ht

/-- Read pieces of at most `size` bytes and keep them apart. -/
def pieces (r : Reader σ) (size : Int) (s : σ) : List Value × Option Fault × σ :=
  match _h : r.read size s with
  | (.error f, s') => ([], some f, s')
  | (.ok v, s') =>
    if _ht : v.truthy = true then
      let (vs, fault, rest) := r.pieces size s'
      (v :: vs, fault, rest)
    else ([], none, s')
termination_by r.weight s
decreasing_by exact r.weight_lt _h _ht

/-- Read bytes into a buffer: the number of bytes and the buffer, whose other cells stay. -/
def readInto (r : Reader σ) (buffer : Bytes) (s : σ) : Except Fault (Nat × Bytes) × σ :=
  match r.into buffer.length s with
  | (.ok (.bytes bs), s') => (.ok (bs.length, bs ++ buffer.drop bs.length), s')
  | (.ok v, s') =>
    (.error (.misuse .type ("a bytes-like object is required, not '" ++ v.typeName ++ "'")), s')
  | (.error f, s') => (.error f, s')

end Reader

/-! ## Bounded reading -/

/-- The bytes within a limit, and whether the stream held more. -/
structure BoundedRead where
  data : Bytes
  more : Bool
  deriving DecidableEq

/-- The size of one read of a bounded reading. -/
def readChunkSize : Int := 8192

/-- The fault for a limit below one. -/
def limitFault (limit : Int) : Fault :=
  match Value.numeral? limit with
  | some shown => .limitNotPositive shown
  | none => .numeralTooLong

theorem interrupts_limitFault (limit : Int) : (limitFault limit).interrupts = false := by
  unfold limitFault
  split <;> rfl

/-- Read at most `limit` bytes.  One byte more is asked for, to learn whether the stream goes
on; it is never part of the data. -/
def Reader.readBounded {σ : Type} (r : Reader σ) (limit chunk : Int) (s : σ) :
    Except Fault BoundedRead × σ :=
  if limit ≤ 0 then (.error (limitFault limit), s)
  else
    let bound := limit.toNat
    let d := r.collect chunk (bound + 1) s
    match d.fault with
    | some f => (.error f, d.rest)
    | none => (.ok ⟨d.data.take bound, bound < d.data.length⟩, d.rest)

end HttpTap
