import HttpTap.Yaml.Property
import HttpTap.Yaml.Scalar.Block
import HttpTap.Yaml.Scalar.Plain

/-!
# From text to tokens

Two things make cutting a document into tokens more than looking at the next character.

*Indentation.*  The columns at which the open collections began are kept, innermost first.  A
token further to the left closes the collections that began to the right of it.  Inside brackets
indentation means nothing.

*Keys.*  A scalar, or a collection in brackets, turns out to be a key only when a colon follows.
So wherever a key could begin, its place among the tokens is kept *pending*, one for each depth
of brackets; when the colon comes, the token for a key is put in there, and in front of it the
one that opens a mapping if the key is indented deeper than what surrounds it.  A pending key
lapses at the end of its line and after `maxKeyLength` characters.  One that begins exactly at
the indentation of a mapping cannot be anything but a key, so if it lapses the document is
malformed.

Text behind a defect is not read, and a token in front of it counts only if no pending key could
still have put another one before it.
-/

namespace HttpTap
namespace Yaml

/-- The number of characters between the start of a key and its colon. -/
def maxKeyLength : Nat := 1024

/-- A place where a key could begin. -/
structure PendingKey where
  /-- The number of tokens in front of it. -/
  place : Nat
  /-- Can it be nothing but a key? -/
  required : Bool
  index : Nat
  line : Nat
  column : Nat

/-- Cutting a document into tokens, somewhere on the way. -/
structure Layout where
  cursor : Cursor
  /-- The tokens so far, the last one first. -/
  tokens : List Token
  /-- The number of tokens so far. -/
  count : Nat
  /-- The columns of the open collections, innermost first. -/
  indents : List Nat
  /-- The depth of brackets. -/
  depth : Nat
  /-- The pending keys by depth of brackets. -/
  pending : List (Nat × PendingKey)
  /-- Could a key begin here? -/
  keyAllowed : Bool

namespace Layout

/-- The start of a document, behind the byte order mark if there is one. -/
def start (s : Supply) : Except Defect Layout := do
  let c ← Cursor.start s
  let c ← if c.sees orderMark then c.next else pure c
  return ⟨c, [], 0, [], 0, [], true⟩

/-- Are we inside brackets? -/
def inFlow (l : Layout) : Bool := l.depth != 0

/-- Add a token. -/
def push (l : Layout) (t : Token) : Layout :=
  { l with tokens := t :: l.tokens, count := l.count + 1 }

/-- Add a token and go on from another place. -/
def pushAt (l : Layout) (t : Token) (c : Cursor) : Layout := { l.push t with cursor := c }

/-- Add a token with another one or more in front of those behind a place. -/
def insert (l : Layout) (place : Nat) (ts : List Token) : Layout :=
  let later := l.count - place
  { l with
    tokens := l.tokens.take later ++ ts.reverse ++ l.tokens.drop later
    count := l.count + ts.length }

/-! ## Indentation -/

/-- Is this column deeper than the innermost collection? -/
def deeper (l : Layout) (column : Nat) : Bool :=
  match l.indents with
  | [] => true
  | i :: _ => i < column

/-- The least column of something inside the innermost collection. -/
def inside (l : Layout) : Nat :=
  match l.indents with
  | [] => 0
  | i :: _ => i + 1

/-- Close the collections that satisfy `closes`, innermost first. -/
def close (closes : Nat → Bool) (l : Layout) : Layout :=
  if l.inFlow then l
  else
    let gone := (l.indents.takeWhile closes).length
    { l with
      tokens := List.replicate gone Token.blockEnd ++ l.tokens
      count := l.count + gone
      indents := l.indents.drop gone }

/-- Close all collections. -/
def closeAll (l : Layout) : Layout := l.close fun _ => true

/-- Open a collection at the cursor if it is deeper there. -/
def openHere (l : Layout) (t : Token) : Layout :=
  let column := l.cursor.column
  if l.deeper column then { l.push t with indents := column :: l.indents } else l

/-! ## Pending keys -/

/-- Has the key lapsed at the cursor? -/
def lapsed (l : Layout) (k : PendingKey) : Bool :=
  k.line != l.cursor.line || maxKeyLength < l.cursor.index - k.index

/-- Drop the keys that have lapsed. -/
def dropLapsed (l : Layout) : Except Defect Layout :=
  if l.pending.any fun (_, k) => l.lapsed k && k.required then .error .malformed
  else .ok { l with pending := l.pending.filter fun (_, k) => !l.lapsed k }

/-- Drop the pending key at this depth. -/
def dropKey (l : Layout) : Except Defect Layout :=
  match l.pending.lookup l.depth with
  | some k =>
    if k.required then .error .malformed
    else .ok { l with pending := l.pending.filter (·.1 != l.depth) }
  | none => .ok l

/-- A key could begin at the cursor. -/
def keepKey (l : Layout) : Except Defect Layout := do
  if l.keyAllowed then
    let required := !l.inFlow && l.indents.head? == some l.cursor.column
    let k : PendingKey :=
      ⟨l.count, required, l.cursor.index, l.cursor.line, l.cursor.column⟩
    let l ← l.dropKey
    return { l with pending := (l.depth, k) :: l.pending }
  else return l

/-- The tokens that no pending key can come before. -/
def settled (l : Layout) : List Token :=
  let keys := l.pending.filter fun (_, k) => !l.lapsed k
  let sure := keys.foldl (fun n (_, k) => min n k.place) l.count
  (l.tokens.drop (l.count - sure)).reverse

/-! ## One token -/

/-- Step over blank lines and comments.  Outside brackets a key may begin on a new line. -/
def dropBlank : Nat → Layout → Except Defect Layout
  | 0, l => .ok l
  | fuel + 1, l => do
    let c ← l.cursor.dropComment
    match ← c.lineBreak? with
    | some (_, c) => dropBlank fuel { l with cursor := c, keyAllowed := l.keyAllowed || !l.inFlow }
    | none => return { l with cursor := c }

/-- A line of its own between documents. -/
def documentMark (t : Token) (l : Layout) : Except Defect Layout := do
  let l ← l.closeAll.dropKey
  return { l.pushAt t (← l.cursor.skip 3) with keyAllowed := false }

/-- A directive. -/
def directiveLine (l : Layout) : Except Defect Layout := do
  let l ← l.closeAll.dropKey
  let (d, c) ← Property.directive l.cursor
  return { l.pushAt (.directive d) c with keyAllowed := false }

/-- An opening bracket. -/
def opening (t : Token) (l : Layout) : Except Defect Layout := do
  let l ← l.keepKey
  return { l.pushAt t (← l.cursor.next) with depth := l.depth + 1, keyAllowed := true }

/-- A closing bracket, which must close something. -/
def closing (t : Token) (l : Layout) : Except Defect Layout := do
  if !l.inFlow then throw .malformed
  let l ← l.dropKey
  return { l.pushAt t (← l.cursor.next) with depth := l.depth - 1, keyAllowed := false }

/-- A comma. -/
def comma (l : Layout) : Except Defect Layout := do
  let l ← l.dropKey
  return { l.pushAt .flowEntry (← l.cursor.next) with keyAllowed := true }

/-- A dash in front of an element. -/
def dash (l : Layout) : Except Defect Layout := do
  if !l.inFlow && !l.keyAllowed then throw .malformed
  let l := if l.inFlow then l else l.openHere .blockSequenceStart
  let l ← l.dropKey
  return { l.pushAt .blockEntry (← l.cursor.next) with keyAllowed := true }

/-- A question mark in front of a key. -/
def question (l : Layout) : Except Defect Layout := do
  if !l.inFlow && !l.keyAllowed then throw .malformed
  let l := if l.inFlow then l else l.openHere .blockMappingStart
  let l ← l.dropKey
  return { l.pushAt .key (← l.cursor.next) with keyAllowed := !l.inFlow }

/-- A colon between a key and its value. -/
def colon (l : Layout) : Except Defect Layout := do
  match l.pending.lookup l.depth with
  | some k =>
    let l := { l with pending := l.pending.filter (·.1 != l.depth) }
    let opens := !l.inFlow && l.deeper k.column
    let l := if opens then
        { l.insert k.place [.blockMappingStart, .key] with indents := k.column :: l.indents }
      else l.insert k.place [.key]
    return { l.pushAt .value (← l.cursor.next) with keyAllowed := false }
  | none =>
    if !l.inFlow && !l.keyAllowed then throw .malformed
    let l := if l.inFlow then l else l.openHere .blockMappingStart
    return { l.pushAt .value (← l.cursor.next) with keyAllowed := !l.inFlow }

/-- Something that could begin a key and is read from the cursor on. -/
def inline (reading : Cursor → Except Defect (Token × Cursor)) (l : Layout) :
    Except Defect Layout := do
  let l ← l.keepKey
  let (t, c) ← reading l.cursor
  return { l.pushAt t c with keyAllowed := false }

/-- A scalar between quotes. -/
def quotedScalar (quote : Char) : Layout → Except Defect Layout :=
  inline fun c => (Quoted.read quote c).map fun (cs, c) => (.scalar (String.ofList cs) .quoted, c)

/-- A block scalar. -/
def blockScalar (folded : Bool) (l : Layout) : Except Defect Layout := do
  let l ← l.dropKey
  let (cs, c) ← Block.read folded (max l.inside 1) l.cursor
  return { l.pushAt (.scalar (String.ofList cs) .quoted) c with keyAllowed := true }

/-- A plain scalar.  Behind a line break a key may begin again. -/
def plainScalar (l : Layout) : Except Defect Layout := do
  let l ← l.keepKey
  let w ← Plain.read l.inFlow l.inside l.cursor
  return { l.pushAt (.scalar (String.ofList w.text) .plain) w.cursor with keyAllowed := w.broken }

/-- The characters that no plain scalar begins with, except that some of them may if a word
follows. -/
def isIndicator (c : Char) : Bool :=
  "-?:,[]\x7b\x7d#&*!|>'\"%@".toList.contains c || c.toNat == 0x60

/-- Does a plain scalar begin at the cursor? -/
def plainHere (l : Layout) (x : Char) : Except Defect Bool := do
  if !(isGap x || isIndicator x) then return true
  if ← l.cursor.gapAt 1 then return false
  return x == '-' || (!l.inFlow && (x == '?' || x == ':'))

/-- Does a line that separates documents begin at the cursor? -/
def separatorHere (l : Layout) (x : Char) : Except Defect Bool :=
  if l.cursor.column == 0 && (x == '-' || x == '.') then l.cursor.seesMark x else .ok false

/-- Does the character stand alone, where that makes it a mark?  Inside brackets question marks and
colons are marks in any case. -/
def markHere (l : Layout) (x : Char) : Except Defect Bool :=
  if x == '-' then l.cursor.gapAt 1
  else if x == '?' || x == ':' then if l.inFlow then .ok true else l.cursor.gapAt 1
  else .ok false

/-- The next token, which begins with the character `x`. -/
def token (x : Char) (l : Layout) : Except Defect Layout := do
  if x == '%' && l.cursor.column == 0 then l.directiveLine
  else if ← l.separatorHere x then
    l.documentMark (if x == '-' then .documentStart else .documentEnd)
  else if x == '[' then l.opening .flowSequenceStart
  else if x == '\x7b' then l.opening .flowMappingStart
  else if x == ']' then l.closing .flowSequenceEnd
  else if x == '\x7d' then l.closing .flowMappingEnd
  else if x == ',' then l.comma
  else if ← l.markHere x then
    if x == '-' then l.dash else if x == '?' then l.question else l.colon
  else if x == '*' then
    l.inline fun c => (Property.name c).map fun (n, c) => (.alias n, c)
  else if x == '&' then
    l.inline fun c => (Property.name c).map fun (n, c) => (.anchor n, c)
  else if x == '!' then l.inline Property.tag
  else if x == '|' && !l.inFlow then l.blockScalar false
  else if x == '>' && !l.inFlow then l.blockScalar true
  else if x == '\'' || x == '"' then l.quotedScalar x
  else if ← l.plainHere x then l.plainScalar
  else throw .malformed

/-- One step: blank lines, lapsed keys, collections that end, and a token; the truth value tells
whether the text goes on. -/
def step (l : Layout) : Except Defect (Layout × Bool) := do
  let l ← l.dropBlank (l.cursor.rest.length + 1)
  let l ← l.dropLapsed
  let l := l.close fun i => l.cursor.column < i
  match l.cursor.here? with
  | some x => return (← l.token x, true)
  | none => return (← l.closeAll.dropKey, false)

/-- All steps: the tokens, and the defect behind them if there is one. -/
def finish : Nat → Layout → List Token × Option Defect
  | 0, l => (l.tokens.reverse, none)
  | fuel + 1, l =>
    match l.step with
    | .error d => (l.settled, some d)
    | .ok (l, true) => finish fuel l
    | .ok (l, false) => (l.tokens.reverse, none)

end Layout

/-- The tokens of a document, and the defect behind them if there is one. -/
def Token.ofSupply (s : Supply) : List Token × Option Defect :=
  match Layout.start s with
  | .error d => ([], some d)
  | .ok l => l.finish (s.text.length + 2)

end Yaml
end HttpTap
