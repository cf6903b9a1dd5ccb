import HttpTap.Stream.Chunked

/-!
# Streams that own what they read

A stream can be laid over another one: chunks are pulled from a file, which may itself be a
stream over chunks of a file, and so on.  A `Source` is such a tower together with all its
floors.  Ground floor is bytes in memory, a stand-in, or a stream over the items of an iterator;
every further floor is a stream over the pieces of the floor below.

The number of floors is part of the type of the state, so that the reader of a tower is built by
recursion on it.
-/

namespace HttpTap

/-- The ground floor. -/
inductive Ground where
  | memory (m : Memory)
  | standIn (d : StandIn)
  | items (c : Chunked (List Item))

namespace Ground

/-- One read. -/
def read (size : Int) : Ground → Except Fault Value × Ground
  | memory m => (Memory.read size m).map id memory
  | standIn d => (StandIn.read size d).map id standIn
  | items c => ((Chunked.reader .items).read size c).map id items

/-- One read into a buffer. -/
def into (cells : Nat) : Ground → Except Fault Value × Ground
  | memory m => (Memory.reader.into cells m).map id memory
  | standIn d => (StandIn.reader.into cells d).map id standIn
  | items c => ((Chunked.reader .items).into cells c).map id items

/-- Close the stream. -/
def close : Ground → Except Fault Unit × Ground
  | memory m => (Memory.reader.close m).map id memory
  | standIn d => (StandIn.close d).map id standIn
  | items c => ((Chunked.reader .items).close c).map id items

/-- What is left to pay with. -/
def weight : Ground → Nat
  | memory m => Memory.reader.weight m
  | standIn d => StandIn.reader.weight d
  | items c => (Chunked.reader .items).weight c

/-- The calls that a stand-in has seen. -/
def calls : Ground → List Call
  | standIn d => d.calls
  | _ => []

/-- Is it closed? -/
def closed : Ground → Bool
  | memory m => m.closed
  | standIn d => d.closed
  | items c => c.closed

/-- A ground floor as a stream. -/
def reader : Reader Ground where
  read := read
  into := into
  close := close
  weight := weight
  calls := calls
  paid size g := by
    cases g with
    | memory m => exact Memory.reader.paid size m
    | standIn d => exact StandIn.reader.paid size d
    | items c => exact (Chunked.reader .items).paid size c

end Ground

/-- The states of a tower of `n` floors above the ground. -/
def Tower : Nat → Type
  | 0 => Ground
  | n + 1 => Chunked (Pulling (Tower n))

namespace Tower

/-- A tower as a stream. -/
def reader : (n : Nat) → Reader (Tower n)
  | 0 => Ground.reader
  | n + 1 => Chunked.reader (.pieces (reader n))

/-- Is the topmost floor closed? -/
def closed : (n : Nat) → Tower n → Bool
  | 0 => Ground.closed
  | _ + 1 => fun c => Chunked.closed c

end Tower

/-- A stream with everything that it reads from. -/
structure Source where
  floors : Nat
  state : Tower floors

namespace Source

/-- Bytes in memory. -/
def ofBytes (bs : Bytes) : Source := ⟨0, Ground.memory (Memory.ofBytes bs)⟩

/-- A stand-in. -/
def ofStandIn (d : StandIn) : Source := ⟨0, Ground.standIn d⟩

/-- A stream over the items of an iterator. -/
def ofItems (is : List Item) : Source := ⟨0, Ground.items (Chunked.ofFeed is)⟩

/-- A stream over the pieces of another one. -/
def inPieces (s : Source) (size : Int) : Source :=
  ⟨s.floors + 1, Chunked.ofFeed ⟨s.state, size, .live⟩⟩

instance : Inhabited Source := ⟨ofBytes []⟩

end Source
end HttpTap
