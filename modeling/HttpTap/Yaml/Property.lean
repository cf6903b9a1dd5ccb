import HttpTap.Text.Integer
import HttpTap.Text.Utf8
import HttpTap.Yaml.Scalar.Quoted
import HttpTap.Yaml.Token

/-!
# Names, tags and directives

A node may be named, so that other places can refer to it, and may carry a tag that says what it
stands for.  Both are written in front of it.  A tag is a handle, which a directive may have
defined, and a suffix; in the long form it is written out between angle brackets.  Characters of
a tag may be written as a percent sign and the hexadecimal digits of their UTF-8.
-/

namespace HttpTap
namespace Yaml
namespace Property

/-- The characters of names and handles. -/
def isNameChar (c : Char) : Bool := c.isAlphanum || c == '-' || c == '_'

/-- The characters of a tag, the percent sign apart. -/
def isTagChar (c : Char) : Bool :=
  c.isAlphanum || "-;/?:@&=+$,_.!~*'()[]".toList.contains c

/-- A space or a line break. -/
def isSpaceOrBreak (c : Char) : Bool := c == ' ' || isBreak c

/-- The characters that may follow the name of a node without a blank. -/
def mayFollowName (c : Char) : Bool := isGap c || "?:,]\x7d%@".toList.contains c || c.toNat == 0x60

/-- Read the name behind a `&` or a `*`. -/
def name (c : Cursor) : Except Defect (String × Cursor) := do
  let (name, c) ← (← c.next).takeWhile isNameChar
  if name.isEmpty || !c.endsBefore mayFollowName then throw .malformed
  return (String.ofList name, c)

/-! ## Tags -/

/-- A run of characters written with percent signs and two digits each, as bytes. -/
def percentBytes : Nat → Cursor → Except Defect (Bytes × Cursor)
  | 0, c => .ok ([], c)
  | fuel + 1, c => do
    if !c.sees '%' then return ([], c)
    let c ← c.next
    let n ← Quoted.hexNumber 2 c
    let (bs, c) ← percentBytes fuel (← c.skip 2)
    return (UInt8.ofNat n :: bs, c)

/-- The characters of a tag, as far as they go. -/
def tagChars : Nat → Cursor → Spelled
  | 0, c => .ok ([], c)
  | fuel + 1, c => do
    if c.sees '%' then
      let (bs, c) ← percentBytes (c.rest.length + 1) c
      match Text.Utf8.decodeExact? bs with
      | none => throw .malformed
      | some cs =>
        let (more, c) ← tagChars fuel c
        return (cs ++ more, c)
    else if c.seesOneOf isTagChar then
      let (cs, c) ← c.takeWhile isTagChar
      let (more, c) ← tagChars fuel c
      return (cs ++ more, c)
    else return ([], c)

/-- The characters of a tag, of which there must be some. -/
def tagText (c : Cursor) : Except Defect (String × Cursor) := do
  if !c.sees '%' && !c.seesOneOf isTagChar then throw .malformed
  let (cs, c) ← tagChars (c.rest.length + 1) c
  return (String.ofList cs, c)

/-- A handle: an exclamation mark, alone or before a name and another one. -/
def handle (c : Cursor) : Except Defect (String × Cursor) := do
  if !c.sees '!' then throw .malformed
  let c ← c.next
  if c.sees ' ' then return ("!", c)
  let (name, c) ← c.takeWhile isNameChar
  if !c.sees '!' then throw .malformed
  return (String.ofList ('!' :: name ++ ['!']), ← c.next)

/-- Does another exclamation mark stand in this word?  The word is looked at up to that one. -/
def hasHandle (c : Cursor) : Except Defect Bool := do
  let word := c.rest.tail.takeWhile fun x => !isSpaceOrBreak x
  if word.contains '!' then return true
  c.ask (word.length + 2)
  return false

/-- Read a tag; the cursor is at its exclamation mark. -/
def tag (c : Cursor) : Except Defect (Token × Cursor) := do
  let (token, c) ←
    if (← c.peek? 1) == some '<' then do
      let (suffix, c) ← tagText (← c.skip 2)
      if !c.sees '>' then throw Defect.malformed
      pure (Token.tag none suffix, ← c.next)
    else if ← c.gapAt 1 then pure (Token.tag none "!", ← c.next)
    else if ← hasHandle c then do
      let (h, c) ← handle c
      let (suffix, c) ← tagText c
      pure (Token.tag (some h) suffix, c)
    else do
      let (suffix, c) ← tagText (← c.next)
      pure (Token.tag (some "!") suffix, c)
  if c.endsBefore isSpaceOrBreak then return (token, c) else throw .malformed

/-! ## Directives -/

/-- A number in a directive. -/
def number (c : Cursor) : Except Defect (Nat × Cursor) := do
  let (ds, c) ← c.takeWhile Char.isDigit
  if ds.isEmpty then throw .malformed
  if ds.length > Text.maxDigits then throw (.unbuildable .numeralTooLong)
  return (ds.foldl (fun n d => 10 * n + (d.toNat - '0'.toNat)) 0, c)

/-- The version behind its directive. -/
def version (c : Cursor) : Except Defect (Directive × Cursor) := do
  let (major, c) ← number (← c.dropWhile (· == ' '))
  if !c.sees '.' then throw .malformed
  let (minor, c) ← number (← c.next)
  if c.endsBefore isSpaceOrBreak then return (.version major minor, c) else throw .malformed

/-- The definition of a handle behind its directive. -/
def definition (c : Cursor) : Except Defect (Directive × Cursor) := do
  let (name, c) ← handle (← c.dropWhile (· == ' '))
  if !c.sees ' ' then throw .malformed
  let (stem, c) ← tagText (← c.dropWhile (· == ' '))
  if c.endsBefore isSpaceOrBreak then return (.handle name stem, c) else throw .malformed

/-- Read a directive with the rest of its line; the cursor is at the percent sign. -/
def directive (c : Cursor) : Except Defect (Directive × Cursor) := do
  let (name, c) ← (← c.next).takeWhile isNameChar
  if name.isEmpty || !c.endsBefore isSpaceOrBreak then throw .malformed
  let (d, c) ←
    if name == "YAML".toList then version c
    else if name == "TAG".toList then definition c
    else do pure (.other, ← c.dropWhile fun x => !isBreak x)
  let c ← c.dropComment
  if !c.atLineEnd then throw .malformed
  match ← c.lineBreak? with
  | some (_, c) => return (d, c)
  | none => return (d, c)

end Property
end Yaml
end HttpTap
