import HttpTap.Yaml.Scalar.Quoted

/-!
# Block scalars

A block scalar is the indented lines below a `|` or a `>`.  In the first form the lines stay as
they are; in the second, two lines that begin without blanks are joined by a space.  How far the
lines are indented is given by a digit in the header or else by the first line that has something
on it.

What becomes of the breaks at the end is given by a sign in the header: `-` drops them all, `+`
keeps them all, and without a sign one is kept.
-/

namespace HttpTap
namespace Yaml
namespace Block

/-- What becomes of the breaks at the end. -/
inductive Ending where
  | drop
  | one
  | keep
  deriving DecidableEq

/-- The header of a block scalar. -/
structure Header where
  ending : Ending
  indent : Option Nat

/-- The sign of a header, and the place behind it. -/
def ending? (c : Cursor) : Except Defect (Option (Ending × Cursor)) :=
  match c.here? with
  | some '+' => c.next.map fun c => some (.keep, c)
  | some '-' => c.next.map fun c => some (.drop, c)
  | _ => .ok none

/-- The digit of a header, and the place behind it.  The digit is not zero. -/
def digit? (c : Cursor) : Except Defect (Option (Nat × Cursor)) :=
  match c.here? with
  | some '0' => .error .malformed
  | some x => if x.isDigit then c.next.map fun c => some (x.toNat - '0'.toNat, c) else .ok none
  | none => .ok none

/-- Sign and digit of a header, in either order. -/
def signs (c : Cursor) : Except Defect (Header × Cursor) := do
  match ← ending? c with
  | some (e, c) =>
    match ← digit? c with
    | some (d, c) => return (⟨e, some d⟩, c)
    | none => return (⟨e, none⟩, c)
  | none =>
    match ← digit? c with
    | none => return (⟨.one, none⟩, c)
    | some (d, c) =>
      match ← ending? c with
      | some (e, c) => return (⟨e, some d⟩, c)
      | none => return (⟨.one, some d⟩, c)

/-- Read a header with the rest of its line. -/
def header (c : Cursor) : Except Defect (Header × Cursor) := do
  let (h, c) ← signs c
  if !c.endsBefore fun x => x == ' ' || isBreak x then throw .malformed
  let c ← c.dropComment
  if !c.atLineEnd then throw .malformed
  match ← c.lineBreak? with
  | some (_, c) => return (h, c)
  | none => return (h, c)

/-- The breaks before the first line with something on it, and the deepest column that a line
of spaces among them, or that line itself, begins at. -/
def leading (deepest : Nat) : Nat → Cursor → Except Defect (List Char × Nat × Cursor)
  | 0, c => .ok ([], deepest, c)
  | fuel + 1, c => do
    let spaced := c.sees ' '
    let c ← c.dropWhile (· == ' ')
    let deepest := if spaced then max deepest c.column else deepest
    match ← c.lineBreak? with
    | none => return ([], deepest, c)
    | some (b, c) =>
      let (bs, deepest, c) ← leading deepest fuel c
      return (b :: bs, deepest, c)

/-- Step over the spaces of the indentation. -/
def dropIndent (indent : Nat) (c : Cursor) : Except Defect Cursor :=
  c.skip (min (indent - c.column) (c.rest.takeWhile (· == ' ')).length)

/-- The breaks before the next line with something on it, where the indentation is known. -/
def emptyLines (indent : Nat) : Nat → Cursor → Spelled
  | 0, c => .ok ([], c)
  | fuel + 1, c => do
    let c ← dropIndent indent c
    match ← c.lineBreak? with
    | none => return ([], c)
    | some (b, c) =>
      let (bs, c) ← emptyLines indent fuel c
      return (b :: bs, c)

/-- The lines of a scalar: their text, the break of the last line, the breaks after it, and the
place behind all of them. -/
structure Lines where
  text : List Char
  last : List Char
  empty : List Char
  cursor : Cursor

/-- Does a line of the scalar begin here? -/
def lineHere (indent : Nat) (c : Cursor) : Bool := c.column == indent && !c.rest.isEmpty

/-- What joins a line to the next one. -/
def joint (folded : Bool) (first : List Char) (bothPlain noneEmpty : Bool) : List Char :=
  if folded && first == ['\n'] && bothPlain then (if noneEmpty then [' '] else [])
  else first

/-- The lines from a place on, where `empty` are the breaks in front of it. -/
def lines (folded : Bool) (indent : Nat) : Nat → List Char → Cursor → Except Defect Lines
  | 0, empty, c => .ok ⟨[], [], empty, c⟩
  | fuel + 1, empty, c => do
    if !lineHere indent c then return ⟨[], [], empty, c⟩
    let (line, rest) ← c.takeWhile fun x => !isBreak x
    let (last, rest) ← match ← rest.lineBreak? with
      | some (b, rest) => pure ([b], rest)
      | none => pure ([], rest)
    let (after, rest) ← emptyLines indent (rest.rest.length + 1) rest
    if !lineHere indent rest then return ⟨empty ++ line, last, after, rest⟩
    let bothPlain := !c.seesOneOf isSpace && !rest.seesOneOf isSpace
    let more ← lines folded indent fuel after rest
    return { more with
      text := empty ++ line ++ joint folded last bothPlain after.isEmpty ++ more.text }

/-- Read a scalar; the cursor is at its first character, and `least` is the least indentation
that the surroundings allow. -/
def read (folded : Bool) (least : Nat) (c : Cursor) : Spelled := do
  let (h, c) ← header (← c.next)
  let (indent, empty, c) ← match h.indent with
    | none =>
      let (bs, deepest, c) ← leading 0 (c.rest.length + 1) c
      pure (max least deepest, bs, c)
    | some d =>
      let indent := least + d - 1
      let (bs, c) ← emptyLines indent (c.rest.length + 1) c
      pure (indent, bs, c)
  let ls ← lines folded indent (c.rest.length + 1) empty c
  let tail := match h.ending with
    | .drop => []
    | .one => ls.last
    | .keep => ls.last ++ ls.empty
  return (ls.text ++ tail, ls.cursor)

end Block
end Yaml
end HttpTap
