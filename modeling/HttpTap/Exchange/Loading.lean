import HttpTap.World.Streams

/-!
# Loading a response

The client library loads the content of a response when it is asked for, or hands it out in
pieces.  Either way the raw stream is read until a read gives nothing, and the response is then
marked as consumed.  A fault on the way leaves the content unread and the mark unset.
-/

namespace HttpTap

/-- How many bytes are asked for at once while the content is loaded. -/
def contentChunkSize : Int := 10240

/-- The pieces from a place on, in one.  A piece that is no bytes is told by its place. -/
def joinFrom (place : Nat) : List Value → Except Fault Bytes
  | [] => .ok []
  | .bytes bs :: vs => (joinFrom (place + 1) vs).map (bs ++ ·)
  | v :: _ =>
    .error (.misuse .type ("sequence item " ++ toString place ++
      ": expected a bytes-like object, " ++ v.typeName ++ " found"))

/-- Pieces that must all be bytes, in one. -/
def joinPieces (vs : List Value) : Except Fault Bytes := joinFrom 0 vs

/-- Cut a list into pieces of `n`. -/
def slices {α : Type} (n : Nat) (xs : List α) : List (List α) :=
  if _h : n = 0 ∨ xs = [] then (if xs.isEmpty then [] else [xs])
  else xs.take n :: slices n (xs.drop n)
termination_by xs.length
decreasing_by
  have : 0 < xs.length := List.length_pos_iff.2 fun e => _h (Or.inr e)
  simp only [List.length_drop]
  omega

/-- Cutting a list loses nothing. -/
theorem flatten_slices {α : Type} (n : Nat) (xs : List α) : (slices n xs).flatten = xs := by
  fun_induction slices n xs with
  | case1 xs stop empty => simpa using empty.symm
  | case2 xs stop filled => simp
  | case3 xs go ih => rw [List.flatten_cons, ih, List.take_append_drop]

/-- A held content in pieces.  A size of zero or less gives it in one. -/
def contentSlices (size : Int) : Value → Except Fault (List Value)
  | .bytes bs => .ok ((slices size.toNat bs).map .bytes)
  | .text s => .ok ((slices size.toNat s.toList).map fun cs => .text (String.ofList cs))
  | .list vs => .ok ((slices size.toNat vs).map .list)
  | v => .error (.misuse .type ("object of type '" ++ v.typeName ++ "' has no len()"))

namespace Act

/-- Read the raw stream of a response to its end. -/
def rawPieces (p : Ref Response) (size : Int) : Act (List Value) := do
  match (← view (·.responses.get p)).raw with
  | none => throw World.noRaw
  | some source =>
    let (vs, fault) ← ofRun fun w =>
      let (result, w) := w.onSource source fun reader s =>
        let (vs, fault, rest) := reader.pieces size s
        ((vs, fault), rest)
      (.ok result, w)
    match fault with
    | some f => throw f
    | none =>
      change fun w =>
        { w with responses := w.responses.set p { w.responses.get p with consumed := true } }
      return vs

/-- The content of a response, loaded if need be. -/
def loadContent (p : Ref Response) : Act Value := do
  let r ← view (·.responses.get p)
  let finish (content : Content) : Act Value := do
    change fun w =>
      { w with responses :=
          w.responses.set p { w.responses.get p with content := content, consumed := true } }
    return content.toValue
  match r.content with
  | .held v => finish (.held v)
  | .unread =>
    if r.consumed then
      throw (.misuse .runtime "The content for this response was already consumed")
    else if r.status.equalsInt 0 || r.raw.isNone then finish (.held .null)
    else
      let vs ← rawPieces p contentChunkSize
      finish (.held (.bytes (← lift (joinPieces vs))))

/-- The content of a response in pieces. -/
def contentPieces (p : Ref Response) (size : Int) : Act (List Value) := do
  let r ← view (·.responses.get p)
  if r.consumed then
    if r.content.isTruthValue then throw (.misuse .streamConsumed "")
    else lift (contentSlices size r.content.toValue)
  else rawPieces p size

end Act
end HttpTap
