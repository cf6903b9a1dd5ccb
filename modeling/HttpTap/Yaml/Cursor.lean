import HttpTap.Yaml.Supply

/-!
# A place in a document

Indentation carries meaning, so what reads a document has to know not only what is left of it but
also in which line and column that begins.  A cursor is the rest of the text with its place.

## Lines

Four characters end a line.  The line feed and the "next line" character mean the same and are
both read as a line feed; the two Unicode separators are kept as they are, because folding lines
into one treats them differently.  A byte order mark takes up no column.

## Where the text cannot be had

Something may be wrong with the text behind the part that has come in (`Supply.behind`).  It is met
as soon as a character there is asked for.  A cursor always knows the next character, so going on to
a place that cannot be had fails, and looking at the next character never does.  Looking further
ahead may fail.
-/

namespace HttpTap
namespace Yaml

/-- Does the character end a line? -/
def isBreak (c : Char) : Bool := c == '\n' || c == '\x85' || c == '\u2028' || c == '\u2029'

/-- A space or a tab. -/
def isSpace (c : Char) : Bool := c == ' ' || c == '\t'

/-- What separates words: spaces, tabs and line breaks. -/
def isGap (c : Char) : Bool := isSpace c || isBreak c

/-- The byte order mark. -/
def orderMark : Char := '\uFEFF'

/-- The rest of a document and its place. -/
structure Cursor where
  rest : List Char
  /-- What is met behind the rest, if that is not the end of the document. -/
  behind : Option Defect
  index : Nat
  line : Nat
  column : Nat

namespace Cursor

/-- A cursor that knows the next character, or that there is none. -/
def settled (c : Cursor) : Except Defect Cursor :=
  match c.rest, c.behind with
  | [], some d => .error d
  | _, _ => .ok c

/-- The start of a document. -/
def start (s : Supply) : Except Defect Cursor := settled ⟨s.text, s.behind, 0, 0, 0⟩

/-- Step over one character. -/
def next (c : Cursor) : Except Defect Cursor :=
  match c.rest with
  | [] => .ok c
  | x :: xs =>
    settled <|
      if isBreak x then { c with rest := xs, index := c.index + 1, line := c.line + 1, column := 0 }
      else if x == orderMark then { c with rest := xs, index := c.index + 1 }
      else { c with rest := xs, index := c.index + 1, column := c.column + 1 }

/-- Step over a number of characters. -/
def skip (c : Cursor) : Nat → Except Defect Cursor
  | 0 => .ok c
  | n + 1 => do (← c.next).skip n

/-- The leading characters with a property, and the place behind them. -/
def takeWhile (p : Char → Bool) (c : Cursor) : Except Defect (List Char × Cursor) := do
  let run := c.rest.takeWhile p
  return (run, ← c.skip run.length)

/-- The place behind the leading characters with a property. -/
def dropWhile (p : Char → Bool) (c : Cursor) : Except Defect Cursor := do
  return (← c.takeWhile p).2

/-! ## The next character -/

/-- The next character. -/
def here? (c : Cursor) : Option Char := c.rest.head?

/-- Does this character come next? -/
def sees (c : Cursor) (x : Char) : Bool := c.here? == some x

/-- Does one of these characters come next? -/
def seesOneOf (c : Cursor) (p : Char → Bool) : Bool := c.here?.any p

/-- Is the text over, or does a character with the property come next? -/
def endsBefore (c : Cursor) (p : Char → Bool) : Bool := c.here?.all p

/-- Is the line over? -/
def atLineEnd (c : Cursor) : Bool := c.endsBefore isBreak

/-- Step over a line break, if there is one, and tell what it is read as. -/
def lineBreak? (c : Cursor) : Except Defect (Option (Char × Cursor)) :=
  match c.here? with
  | some x =>
    if x == '\n' || x == '\x85' then c.next.map fun c => some ('\n', c)
    else if isBreak x then c.next.map fun c => some (x, c)
    else .ok none
  | none => .ok none

/-- Step over the spaces and the comment at the end of a line. -/
def dropComment (c : Cursor) : Except Defect Cursor := do
  let c ← c.dropWhile (· == ' ')
  if c.sees '#' then c.dropWhile fun x => !isBreak x else return c

/-! ## Looking ahead -/

/-- Ask for so many characters. -/
def ask (c : Cursor) (n : Nat) : Except Defect Unit :=
  match c.behind with
  | some d => if c.rest.length < n then .error d else .ok ()
  | none => .ok ()

/-- The character at a distance. -/
def peek? (c : Cursor) (n : Nat) : Except Defect (Option Char) := do
  c.ask (n + 1)
  return c.rest[n]?

/-- Is there nothing at that distance, or a space, a tab or a line break? -/
def gapAt (c : Cursor) (n : Nat) : Except Defect Bool := return (← c.peek? n).all isGap

/-- Does a mark of three characters stand here on its own? -/
def seesMark (c : Cursor) (x : Char) : Except Defect Bool := do
  c.ask 3
  if c.rest.take 3 == [x, x, x] then c.gapAt 3 else return false

/-- Does a line begin here that separates documents? -/
def atSeparator (c : Cursor) : Except Defect Bool := return (← c.seesMark '-') || (← c.seesMark '.')

end Cursor
end Yaml
end HttpTap
