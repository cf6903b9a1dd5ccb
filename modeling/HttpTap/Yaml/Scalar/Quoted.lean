import HttpTap.Yaml.Cursor

/-!
# Quoted scalars

Between quotes every character stands for itself, with three exceptions.

* Between single quotes, two single quotes stand for one.
* Between double quotes, a backslash begins an escape: a letter for a control character, a
  number for any character, or a line break that counts for nothing.
* Line breaks are *folded*.  Spaces around a break disappear; a single break becomes a space, and
  of several the first disappears and the others stay.

A line that separates documents may not stand inside.
-/

namespace HttpTap
namespace Yaml

/-- The result of reading a scalar: its text and the place behind it. -/
abbrev Spelled := Except Defect (List Char × Cursor)

namespace Quoted

/-- The line breaks before the next line that has something on it, and the place of that. -/
def emptyLines : Nat → Cursor → Spelled
  | 0, c => .ok ([], c)
  | fuel + 1, c => do
    if ← c.atSeparator then throw .malformed
    let c ← c.dropWhile isSpace
    match ← c.lineBreak? with
    | none => return ([], c)
    | some (b, c) =>
      let (bs, c) ← emptyLines fuel c
      return (b :: bs, c)

/-- Fold one line break and the empty lines after it. -/
def fold (first : Char) (others : List Char) : List Char :=
  if first != '\n' then first :: others
  else if others.isEmpty then [' ']
  else others

/-- A run of spaces and line breaks. -/
def gap (c : Cursor) : Spelled := do
  let (spaces, c) ← c.takeWhile isSpace
  match ← c.lineBreak? with
  | none => return (spaces, c)
  | some (b, c) =>
    let (bs, c) ← emptyLines (c.rest.length + 1) c
    return (fold b bs, c)

/-! ## Escapes -/

/-- The characters that have an escape of their own. -/
def letterEscapes : List (Char × Char) :=
  [('0', '\x00'), ('a', '\x07'), ('b', '\x08'), ('t', '\t'), ('\t', '\t'), ('n', '\n'),
   ('v', '\x0B'), ('f', '\x0C'), ('r', '\r'), ('e', '\x1B'), (' ', ' '), ('"', '"'),
   ('\\', '\\'), ('/', '/'), ('N', '\x85'), ('_', '\xA0'), ('L', '\u2028'), ('P', '\u2029')]

/-- The number of digits in an escape by number. -/
def escapeWidth? (c : Char) : Option Nat :=
  if c == 'x' then some 2 else if c == 'u' then some 4 else if c == 'U' then some 8 else none

/-- The value of a hexadecimal digit. -/
def hexDigit? (c : Char) : Option Nat :=
  let n := c.toNat
  if 0x30 ≤ n && n ≤ 0x39 then some (n - 0x30)
  else if 0x41 ≤ n && n ≤ 0x46 then some (n - 0x41 + 10)
  else if 0x61 ≤ n && n ≤ 0x66 then some (n - 0x61 + 10)
  else none

/-- The number that so many hexadecimal digits spell. -/
def hexNumber (width : Nat) (c : Cursor) : Except Defect Nat := do
  match (c.rest.take width).mapM hexDigit? with
  | none => throw .malformed
  | some ds =>
    c.ask width
    if ds.length < width then throw .malformed
    return ds.foldl (fun n d => 16 * n + d) 0

/-- The character with a number.  Half of a surrogate pair is no character. -/
def charOf (n : Nat) : Except Defect Char :=
  if 0x7FFFFFFF < n then
    .error (.unbuildable (.misuse .overflow "character number too large"))
  else if 0x10FFFF < n then
    .error (.unbuildable (.misuse .value "no such character"))
  else if 0xD800 ≤ n && n ≤ 0xDFFF then .ok '\uFFFD'
  else .ok (Char.ofNat n)

/-- What an escape stands for; the cursor is behind the backslash. -/
def escape (c : Cursor) : Spelled := do
  match c.here? with
  | none => throw .malformed
  | some x =>
    match letterEscapes.lookup x with
    | some y => return ([y], ← c.next)
    | none =>
      match escapeWidth? x with
      | some width =>
        let c ← c.next
        let y ← charOf (← hexNumber width c)
        return ([y], ← c.skip width)
      | none =>
        match ← c.lineBreak? with
        | some (_, c) => emptyLines (c.rest.length + 1) c
        | none => throw .malformed

/-! ## The whole scalar -/

/-- The rest of a scalar, up to and with its closing quote. -/
def body (quote : Char) : Nat → Cursor → Spelled
  | 0, _ => .error .malformed
  | fuel + 1, c => do
    let more (piece : List Char) (c : Cursor) : Spelled :=
      (body quote fuel c).map fun (text, c) => (piece ++ text, c)
    match c.here? with
    | none => throw .malformed
    | some x =>
      if x == quote then
        let after ← if quote == '\'' then c.peek? 1 else pure none
        if after == some '\'' then more ['\''] (← c.skip 2) else return ([], ← c.next)
      else if x == '\\' && quote == '"' then
        let (piece, c) ← escape (← c.next)
        more piece c
      else if isGap x then
        let (piece, c) ← gap c
        more piece c
      else more [x] (← c.next)

/-- Read a scalar; the cursor is at its opening quote. -/
def read (quote : Char) (c : Cursor) : Spelled := do body quote (c.rest.length + 1) (← c.next)

end Quoted
end Yaml
end HttpTap
