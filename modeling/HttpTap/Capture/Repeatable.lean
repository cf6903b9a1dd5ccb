import HttpTap.Entity.Message

/-!
# Making an entity repeatable

An entity whose content can be opened only once is read to its end and replaced by one that
holds the bytes.  The whole stream is read, whatever the limit on what is recorded, because the
replacement takes the place of the entity for the program as well.

When reading fails part way the entity stays what it is, and so does the state in which its
stream was left.  An entity that is repeatable already is left alone.
-/

namespace HttpTap

/-- How many bytes are asked for at once while an entity is buffered. -/
def bufferChunkSize : Int := 8192

/-- The outcome of making an entity repeatable: the entity to go on with, and whether it is a
replacement made of so many bytes. -/
structure RepeatableResult where
  entity : Ref Entity
  bytesRead : Nat
  replaced : Bool

namespace Act

/-- The channel of this part. -/
def repeatableChannel : String := "capture.repeatable"

/-- Open an entity, read it to its end and close it.  Says what was read even if something
failed: opening, a read, or closing, the latest fault in that order. -/
def bufferContent (e : Ref Entity) (chunk : Int) : Act (Bytes × Option Fault) := do
  match ← observe (openContent e) with
  | .error f => return ([], some f)
  | .ok r =>
    let (data, fault) ← drainStream r chunk
    match ← observe (closeStream r) with
    | .error f => return (data, some f)
    | .ok () => return (data, fault)

/-- Replace an entity by its bytes. -/
def replaceEntity (e : Ref Entity) (data : Bytes) : Act RepeatableResult := do
  let type ← contentType e
  let encoding ← contentEncoding e
  let replacement ← newEntity (.ofBytes data type encoding)
  say (.detail repeatableChannel
    ("Buffered non-repeatable entity (" ++ toString data.length ++ " bytes)"))
  return ⟨replacement, data.length, true⟩

/-- A repeatable equivalent of an entity. -/
def makeRepeatable (e : Ref Entity) (chunk : Int) : Act RepeatableResult := do
  if (← repeatable e).truthy then return ⟨e, 0, false⟩
  else
    let (data, fault) ← bufferContent e chunk
    match fault with
    | none => replaceEntity e data
    | some f =>
      if f.interrupts then throw f
      else
        say (.contained repeatableChannel
          ("Failed to make entity repeatable after " ++ toString data.length ++
            " bytes, keeping original") f)
        return ⟨e, 0, false⟩

end Act
end HttpTap
