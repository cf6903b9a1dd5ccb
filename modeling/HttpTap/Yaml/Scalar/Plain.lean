import HttpTap.Yaml.Scalar.Quoted

/-!
# Plain scalars

A scalar without quotes ends where the text could be read as something else: at a colon or a
number sign that is set off by blanks, inside brackets also at a bracket, a comma or a question
mark, and at a line that is indented too little.  Lines are folded as between quotes; a tab
ends the scalar.
-/

namespace HttpTap
namespace Yaml
namespace Plain

/-- The characters that end a word inside brackets. -/
def isFlowEnd (c : Char) : Bool :=
  c == ',' || c == '?' || c == '[' || c == ']' || c == '\x7b' || c == '\x7d'

/-- The characters before which a colon ends a word inside brackets. -/
def isFlowStop (c : Char) : Bool :=
  c == ',' || c == '[' || c == ']' || c == '\x7b' || c == '\x7d'

/-- The word at the front of a text. -/
def wordOf (inFlow : Bool) : List Char → List Char
  | [] => []
  | x :: xs =>
    let colonEnds := xs.head?.all fun y => isGap y || (inFlow && isFlowStop y)
    if isGap x || (x == ':' && colonEnds) || (inFlow && isFlowEnd x) then []
    else x :: wordOf inFlow xs

/-- The word at a place, which ends where the character that ends it has been seen.  If that is a
colon, the one behind it has been looked at as well. -/
def word (inFlow : Bool) (c : Cursor) : Except Defect (List Char) := do
  let w := wordOf inFlow c.rest
  c.ask (w.length + 1)
  if c.rest[w.length]? == some ':' then c.ask (w.length + 2)
  return w

/-- The line breaks before the next word; nothing if a separator of documents comes first. -/
def emptyLines : Nat → Cursor → Except Defect (Option (List Char) × Cursor)
  | 0, c => .ok (some [], c)
  | fuel + 1, c => do
    let c ← c.dropWhile (· == ' ')
    match ← c.lineBreak? with
    | none => return (some [], c)
    | some (b, c) =>
      if ← c.atSeparator then return (none, c)
      let (bs, c) ← emptyLines fuel c
      return (bs.map (b :: ·), c)

/-- What stands between two words: the text that it is read as, whether a line ended, and the
place behind it.  An empty text ends the scalar. -/
structure Between where
  text : List Char
  broken : Bool
  cursor : Cursor

/-- Read what stands between two words. -/
def between (c : Cursor) : Except Defect Between := do
  let (spaces, c) ← c.takeWhile (· == ' ')
  match ← c.lineBreak? with
  | none => return ⟨spaces, false, c⟩
  | some (b, c) =>
    if ← c.atSeparator then return ⟨[], true, c⟩
    match ← emptyLines (c.rest.length + 1) c with
    | (none, c) => return ⟨[], true, c⟩
    | (some bs, c) => return ⟨Quoted.fold b bs, true, c⟩

/-- A scalar: its text, whether a line ended behind its last word, and the place behind it. -/
structure Words where
  text : List Char
  broken : Bool
  cursor : Cursor

/-- The words from a place on, where `before` stands in front of the first of them. -/
def words (inFlow : Bool) (indent : Nat) : Nat → Between → Except Defect Words
  | 0, before => .ok ⟨[], before.broken, before.cursor⟩
  | fuel + 1, before => do
    let c := before.cursor
    if c.sees '#' then return ⟨[], before.broken, c⟩
    let w ← word inFlow c
    if w.isEmpty then return ⟨[], before.broken, c⟩
    let after ← between (← c.skip w.length)
    let text := before.text ++ w
    if after.text.isEmpty || after.cursor.sees '#' ||
        (!inFlow && after.cursor.column < indent) then
      return ⟨text, after.broken, after.cursor⟩
    let rest ← words inFlow indent fuel after
    return { rest with text := text ++ rest.text }

/-- Read a scalar. -/
def read (inFlow : Bool) (indent : Nat) (c : Cursor) : Except Defect Words :=
  words inFlow indent (c.rest.length + 1) ⟨[], false, c⟩

end Plain
end Yaml
end HttpTap
