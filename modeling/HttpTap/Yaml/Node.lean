import HttpTap.Yaml.Scalar.Implicit
import HttpTap.Yaml.Supply
import HttpTap.Yaml.Token

/-!
# The tree of a document

A document is a tree of scalars, sequences and mappings, each with its tag.  Where a node refers
to another one by name, that node stands in its place; where it refers to one that it is itself a
part of, there is a *loop*.

## Reading the tree off the tokens

The grammar is read from the left, one token ahead.  Every function takes an amount of fuel that
bounds the depth of its calls; each call but a fixed number consumes a token, so an amount in
proportion to the number of tokens is always enough.

Empty places are nodes as well: a missing key or value stands for nothing.  A name may be given
once only and has to come before it is used.

Collections inside each other are read by calls inside each other, and there is only so much *room*
for these.  A document that is nested deeper is not malformed.  It is given up where the room ends,
and what stands behind that place is not looked at.
-/

namespace HttpTap
namespace Yaml

/-- A node of a document. -/
inductive Node where
  | scalar (tag : Tag) (text : String)
  | sequence (tag : Tag) (items : List Node)
  | mapping (tag : Tag) (entries : List (Node × Node))
  /-- A sequence or a mapping around this place. -/
  | loop (isMapping : Bool)
  deriving Inhabited

namespace Node

/-- The node of an empty place. -/
def empty : Node := .scalar .null ""

/-- The tag of a node; a loop has none of its own. -/
def tag? : Node → Option Tag
  | scalar t _ | sequence t _ | mapping t _ => some t
  | loop _ => none

end Node

/-- Reading a tree, somewhere on the way. -/
structure Reading where
  tokens : List Token
  /-- The defect behind the last token. -/
  after : Option Defect
  /-- The nodes with names. -/
  named : List (String × Node)
  /-- What the handles of tags stand for. -/
  handles : List (String × String)
  /-- How many more collections may be opened inside each other. -/
  room : Nat

/-- A step of reading. -/
abbrev Grammar := StateT Reading (Except Defect)

namespace Grammar

/-- The next token; nothing at the end of the document. -/
def peek : Grammar (Option Token) := do
  let r ← get
  match r.tokens, r.after with
  | t :: _, _ => return some t
  | [], none => return none
  | [], some d => throw d

/-- Step over the next token. -/
def advance : Grammar Unit := modify fun r => { r with tokens := r.tokens.tail }

/-- Does one of these tokens come next? -/
def seesOneOf (ts : List Token) : Grammar Bool := do
  match ← peek with
  | some t => return ts.contains t
  | none => return false

/-- Step over this token if it comes next. -/
def accept (t : Token) : Grammar Bool := do
  if ← seesOneOf [t] then
    advance
    return true
  else return false

/-- Step over this token, which must come next. -/
def expect (t : Token) : Grammar Unit := do
  unless ← accept t do throw .malformed

/-! ## What stands in front of a node -/

/-- The name in front of a node. -/
def anchor : Grammar (Option String) := do
  match ← peek with
  | some (.anchor n) =>
    advance
    return some n
  | _ => return none

/-- The tag in front of a node, with its handle resolved. -/
def tag : Grammar (Option String) := do
  match ← peek with
  | some (.tag none suffix) =>
    advance
    return some suffix
  | some (.tag (some h) suffix) =>
    advance
    match (← get).handles.lookup h with
    | some stem => return some (stem ++ suffix)
    | none => throw .malformed
  | _ => return none

/-- Name and tag, in either order. -/
def properties : Grammar (Option String × Option String) := do
  match ← anchor with
  | some n => return (some n, ← tag)
  | none =>
    match ← tag with
    | some t => return (← anchor, some t)
    | none => return (none, none)

/-- The tag of a collection: as written, unless it is missing or leaves the choice open. -/
def collectionTag (written : Option String) (standard : Tag) : Tag :=
  match written with
  | none | some "!" => standard
  | some name => .ofName name

/-- The tag of a scalar: as written, or by its form if it is plain or the choice is left open. -/
def scalarTag (written : Option String) (style : Style) (text : String) : Tag :=
  match written, style with
  | none, .plain => Implicit.tag text
  | none, .quoted => .text
  | some "!", _ => Implicit.tag text
  | some name, _ => .ofName name

/-- The node with a name. -/
def referTo (name : String) : Grammar Node := do
  match (← get).named.lookup name with
  | some n => return n
  | none => throw .malformed

/-- A name must not have been given before. -/
def checkNew : Option String → Grammar Unit
  | none => return
  | some name => do
    if ((← get).named.lookup name).isSome then throw .malformed

/-- Give a node its name. -/
def give (name : Option String) (n : Node) : Grammar Node := do
  match name with
  | some name => modify fun r => { r with named := (name, n) :: r.named }
  | none => pure ()
  return n

/-- Read what is inside a collection. -/
def inside {α : Type} (reading : Grammar α) : Grammar α := do
  match (← get).room with
  | 0 => throw (.unbuildable .tooDeep)
  | room + 1 =>
    modify fun r => { r with room := room }
    let x ← reading
    modify fun r => { r with room := room + 1 }
    return x

/-- Read a collection.  While it is being read its name stands for a loop. -/
def named (name : Option String) (isMapping : Bool) (reading : Grammar Node) : Grammar Node := do
  let _ ← give name (.loop isMapping)
  let n ← inside reading
  give name n

/-! ## The grammar -/

mutual

/-- A node.  Inside brackets (`inBlock` false) indentation opens nothing; `dashes` says whether a
sequence may stand at the indentation of what surrounds it. -/
def node (inBlock dashes : Bool) : Nat → Grammar Node
  | 0 => throw .malformed
  | fuel + 1 => do
    match ← peek with
    | some (.alias name) =>
      advance
      referTo name
    | _ =>
      let (name, written) ← properties
      checkNew name
      let items (reading : Grammar (List Node)) : Grammar Node :=
        named name false do return .sequence (collectionTag written .sequence) (← reading)
      let entries (reading : Grammar (List (Node × Node))) : Grammar Node :=
        named name true do return .mapping (collectionTag written .mapping) (← reading)
      match ← peek, inBlock, dashes with
      | some .blockEntry, _, true => items (dashed fuel)
      | some (.scalar text style), _, _ =>
        advance
        give name (.scalar (scalarTag written style text) text)
      | some .flowSequenceStart, _, _ =>
        advance
        items (flowItems true fuel)
      | some .flowMappingStart, _, _ =>
        advance
        entries (flowEntries true fuel)
      | some .blockSequenceStart, true, _ =>
        advance
        items (blockItems fuel)
      | some .blockMappingStart, true, _ =>
        advance
        entries (blockEntries fuel)
      | _, _, _ =>
        if name.isNone && written.isNone then throw .malformed
        else give name (.scalar (scalarTag written .plain "") "")

/-- The elements of a sequence that has an indentation of its own. -/
def blockItems : Nat → Grammar (List Node)
  | 0 => throw .malformed
  | fuel + 1 => do
    if ← accept .blockEntry then
      let item ←
        if ← seesOneOf [.blockEntry, .blockEnd] then pure .empty else node true false fuel
      return item :: (← blockItems fuel)
    else
      expect .blockEnd
      return []

/-- The elements of a sequence at the indentation of the mapping around it. -/
def dashed : Nat → Grammar (List Node)
  | 0 => throw .malformed
  | fuel + 1 => do
    if ← accept .blockEntry then
      let item ←
        if ← seesOneOf [.blockEntry, .key, .value, .blockEnd] then pure .empty
        else node true false fuel
      return item :: (← dashed fuel)
    else return []

/-- The entries of a mapping by indentation.  A value without a key in front of it is refused. -/
def blockEntries : Nat → Grammar (List (Node × Node))
  | 0 => throw .malformed
  | fuel + 1 => do
    if ← accept .key then
      let key ← blockPart fuel
      let value ← if ← accept .value then blockPart fuel else pure .empty
      return (key, value) :: (← blockEntries fuel)
    else
      expect .blockEnd
      return []

/-- A key or a value of a mapping by indentation; it may be missing. -/
def blockPart : Nat → Grammar Node
  | 0 => throw .malformed
  | fuel + 1 => do
    if ← seesOneOf [.key, .value, .blockEnd] then return .empty else node true true fuel

/-- The elements of a sequence in brackets.  A key in it makes a mapping of one entry. -/
def flowItems (first : Bool) : Nat → Grammar (List Node)
  | 0 => throw .malformed
  | fuel + 1 => do
    if ← accept .flowSequenceEnd then return []
    unless first do expect .flowEntry
    if ← accept .key then
      let entry ← inside do
        let key ← flowPart [.value, .flowEntry, .flowSequenceEnd] fuel
        let value ← if ← accept .value then flowPart [.flowEntry, .flowSequenceEnd] fuel
          else pure .empty
        return (key, value)
      return .mapping .mapping [entry] :: (← flowItems false fuel)
    else if ← accept .flowSequenceEnd then return []
    else
      let item ← node false false fuel
      return item :: (← flowItems false fuel)

/-- The entries of a mapping in braces.  An entry without a colon is a key without a value. -/
def flowEntries (first : Bool) : Nat → Grammar (List (Node × Node))
  | 0 => throw .malformed
  | fuel + 1 => do
    if ← accept .flowMappingEnd then return []
    unless first do expect .flowEntry
    if ← accept .key then
      let key ← flowPart [.value, .flowEntry, .flowMappingEnd] fuel
      let value ← if ← accept .value then flowPart [.flowEntry, .flowMappingEnd] fuel
        else pure .empty
      return (key, value) :: (← flowEntries false fuel)
    else if ← accept .flowMappingEnd then return []
    else
      let key ← node false false fuel
      return (key, .empty) :: (← flowEntries false fuel)

/-- A key or a value inside brackets; it is missing if one of the given tokens comes next. -/
def flowPart (ends : List Token) : Nat → Grammar Node
  | 0 => throw .malformed
  | fuel + 1 => do
    if ← seesOneOf ends then return .empty else node false false fuel

end

/-! ## The document -/

/-- The handles that need no definition. -/
def standardHandles : List (String × String) := [("!", "!"), ("!!", Tag.stem)]

/-- The directives in front of a document.  There may be one version, whose first number must be
one, and one definition for each handle. -/
def directives (versioned : Bool) : Nat → Grammar Unit
  | 0 => return
  | fuel + 1 => do
    match ← peek with
    | some (.directive d) =>
      advance
      match d with
      | .version major _ =>
        if versioned || major != 1 then throw .malformed
        directives true fuel
      | .handle name stem =>
        if ((← get).handles.lookup name).isSome then throw .malformed
        modify fun r => { r with handles := (name, stem) :: r.handles }
        directives versioned fuel
      | .other => directives versioned fuel
    | _ => return

/-- Step over the marks that end a document. -/
def documentEnds : Nat → Grammar Unit
  | 0 => return
  | fuel + 1 => do
    if ← accept .documentEnd then documentEnds fuel

/-- The node of a document behind its start mark, which may be missing. -/
def content (fuel : Nat) : Grammar Node := do
  match ← peek with
  | none | some .documentStart | some .documentEnd | some (.directive _) => return .empty
  | _ => node true false fuel

/-- The one document of a text; nothing if there is none. -/
def document (fuel : Nat) : Grammar (Option Node) := do
  let n ← match ← peek with
    | none => return none
    | some .documentStart | some (.directive _) => do
      directives false fuel
      expect .documentStart
      modify fun r => { r with handles := r.handles ++ standardHandles }
      content fuel
    | some _ => do
      modify fun r => { r with handles := standardHandles }
      node true false fuel
  documentEnds fuel
  match ← peek with
  | none => return some n
  | some _ => throw .malformed

end Grammar

/-- The tree of a document, for which there is so much room; nothing if the text holds none. -/
def Node.ofTokens (room : Nat) (tokens : List Token) (after : Option Defect) :
    Except Defect (Option Node) :=
  ((Grammar.document (4 * tokens.length + 8)).run ⟨tokens, after, [], [], room⟩).map Prod.fst

end Yaml
end HttpTap
