import HttpTap.Number.Rounded
import HttpTap.Value.Basic

/-!
# Formats of log lines

How a handler writes a line is given by a format: a text in which a percent sign begins a *field*.
A field may have a name in parentheses, then says how wide and how exact it is to be written, and
ends with the letter of a form.  Two percent signs stand for one.

A format is first cut into pieces and then filled, and either may fail: a percent sign may stand
in front of something that is no field, or a field may have a name that the line has no part for, or
may ask for a number where the line has a text.  Nothing checks a format before it is used, so such
a failure comes up only when a line is written.

## Cutting

The cutter goes through the format character by character and knows only how far it has come in a
field (`Stage`).  A format is sound if it ends between two fields.

A width or a precision may also be a star, which takes the value of the field as its number.  Then
the field itself has no value left, so that a star is no better than a letter without a form, and it
is treated as one.

## Filling

A field with a name is filled with the part of that name.  A field without one takes all parts
together, and can do so only as the very first field.
-/

namespace HttpTap
namespace Log

open Number (Double)

/-- The layouts of a double: so many digits behind the point, with a power of ten, or whichever of
the two suits the number. -/
inductive Shape where
  | fixed
  | scientific
  | general
  deriving DecidableEq

/-- The forms in which a value is written. -/
inductive Form where
  /-- What the value says. -/
  | said
  /-- What the value is. -/
  | described
  /-- The same with every character outside ASCII written by its number. -/
  | ascii
  | decimal
  | octal
  | hexadecimal (capitals : Bool)
  /-- The character itself, or the one with this number. -/
  | character
  | double (shape : Shape) (capitals : Bool)
  deriving DecidableEq

/-- The form with a letter. -/
def Form.ofLetter? : Char → Option Form
  | 's' => some .said
  | 'r' => some .described
  | 'a' => some .ascii
  | 'd' | 'i' | 'u' => some .decimal
  | 'o' => some .octal
  | 'x' => some (.hexadecimal false)
  | 'X' => some (.hexadecimal true)
  | 'c' => some .character
  | 'f' => some (.double .fixed false)
  | 'F' => some (.double .fixed true)
  | 'e' => some (.double .scientific false)
  | 'E' => some (.double .scientific true)
  | 'g' => some (.double .general false)
  | 'G' => some (.double .general true)
  | _ => none

/-- How a field is written: on which side it is filled up and with what, how wide it is, and how much
of the value is written. -/
structure FieldStyle where
  left : Bool
  plus : Bool
  space : Bool
  alternate : Bool
  zeros : Bool
  width : Nat
  precision : Option Nat
  deriving DecidableEq

/-- The style of a field that says nothing about it. -/
def FieldStyle.plain : FieldStyle := ⟨false, false, false, false, false, 0, none⟩

/-- The style with one more flag, if the character is one. -/
def FieldStyle.flag? (style : FieldStyle) : Char → Option FieldStyle
  | '-' => some { style with left := true }
  | '+' => some { style with plus := true }
  | ' ' => some { style with space := true }
  | '#' => some { style with alternate := true }
  | '0' => some { style with zeros := true }
  | _ => none

/-- A piece of a format. -/
inductive Piece where
  | literal (c : Char)
  | field (name : Option (List Char)) (style : FieldStyle) (form : Form)
  deriving DecidableEq

/-! ## Cutting a format into pieces -/

/-- How far the reading of a field has come. -/
inductive Stage where
  /-- Between two fields. -/
  | between
  /-- Behind the percent sign. -/
  | sign
  /-- In the name: the parentheses that are still open in it, and what was read of it. -/
  | inName (depth : Nat) (read : List Char)
  | inFlags (name : Option (List Char)) (style : FieldStyle)
  | inWidth (name : Option (List Char)) (style : FieldStyle)
  /-- Behind the point. -/
  | inPrecision (name : Option (List Char)) (style : FieldStyle) (read : Nat)
  /-- Behind a letter about the size of a number. -/
  | sized (name : Option (List Char)) (style : FieldStyle)
  deriving DecidableEq

/-- What the cutter makes of a text: the pieces that are finished, and the stage. -/
abbrev Cut := Option (List Piece × Stage)

/-- The greatest width. -/
def greatestWidth : Nat := 9223372036854775807

/-- The greatest precision. -/
def greatestPrecision : Nat := 2147483647

/-- A number with one more digit, as long as it is not too great. -/
def extended? (greatest n : Nat) (digit : Char) : Option Nat :=
  let n := 10 * n + (digit.toNat - '0'.toNat)
  if n ≤ greatest then some n else none

namespace Stage

section Field

variable (name : Option (List Char)) (style : FieldStyle) (c : Char)

/-- The character has to be the letter of a form. -/
def atLetter : Cut :=
  (Form.ofLetter? c).map fun form => ([.field name style form], between)

/-- The character may be a letter about the size of a number, which means nothing any more. -/
def atSize : Cut :=
  if c == 'h' || c == 'l' || c == 'L' then some ([], sized name style) else atLetter name style c

/-- The character may be the point. -/
def atPoint : Cut :=
  if c == '.' then some ([], inPrecision name style 0) else atSize name style c

/-- The character may be a digit of the width. -/
def atWidth : Cut :=
  if c.isDigit then
    (extended? greatestWidth style.width c).map fun n => ([], inWidth name { style with width := n })
  else atPoint name style c

/-- The character may be a flag. -/
def atFlag : Cut :=
  match style.flag? c with
  | some style => some ([], inFlags name style)
  | none => atWidth name style c

end Field

/-- One step of the cutter. -/
def step? : Stage → Char → Cut
  | between, c => if c == '%' then some ([], sign) else some ([.literal c], between)
  | sign, c =>
    if c == '%' then some ([.literal '%'], between)
    else if c == '(' then some ([], inName 0 [])
    else atFlag none .plain c
  | inName depth read, c =>
    if c == ')' then
      match depth with
      | 0 => some ([], inFlags (some read) .plain)
      | depth + 1 => some ([], inName depth (read ++ [c]))
    else some ([], inName (if c == '(' then depth + 1 else depth) (read ++ [c]))
  | inFlags name style, c => atFlag name style c
  | inWidth name style, c => atWidth name style c
  | inPrecision name style read, c =>
    if c.isDigit then
      (extended? greatestPrecision read c).map fun n => ([], inPrecision name style n)
    else atSize name { style with precision := some read } c
  | sized name style, c => atLetter name style c

/-- The cutter on a text. -/
def run? : Stage → List Char → Cut
  | g, [] => some ([], g)
  | g, c :: cs =>
    (g.step? c).bind fun (ps, g) => (g.run? cs).map fun (qs, g) => (ps ++ qs, g)

end Stage

/-- The pieces of a text that ends between two fields. -/
def finished? : Cut → Option (List Piece)
  | some (ps, .between) => some ps
  | _ => none

/-- The pieces of a format. -/
def pieces? (format : List Char) : Option (List Piece) := finished? (Stage.between.run? format)

/-! ## Forms -/

/-- Fill up a text to a width. -/
def filled (style : FieldStyle) (cs : List Char) : List Char :=
  let blanks := List.replicate (style.width - cs.length) ' '
  if style.left then cs ++ blanks else blanks ++ cs

/-- A text, or as much of it as is asked for. -/
def textForm (style : FieldStyle) (s : String) : List Char :=
  filled style (match style.precision with
    | some n => s.toList.take n
    | none => s.toList)

/-- A number: sign, mark of the base, digits.  Zeros that fill it up stand in front of the digits. -/
def numberForm (style : FieldStyle) (negative : Bool) (mark digits : List Char) : List Char :=
  let sign :=
    if negative then ['-'] else if style.plus then ['+'] else if style.space then [' '] else []
  let lead := sign ++ (if style.alternate then mark else [])
  let zeros :=
    if style.zeros && !style.left then
      List.replicate (style.width - lead.length - digits.length) '0'
    else []
  filled style (lead ++ (zeros ++ digits))

/-- The precision of an integer is less than the greatest one by this. -/
def precisionMargin : Nat := 3

/-- An integer in a base.  In base ten it must not be too long. -/
def integerForm? (style : FieldStyle) (base : Nat) (mark : List Char) (n : Int) :
    Option (List Char) :=
  let digits := Nat.toDigits base n.natAbs
  let least := style.precision.getD 1
  if least + precisionMargin ≤ greatestPrecision &&
      (base != 10 || digits.length ≤ Text.maxDigits) then
    some (numberForm style (n < 0) mark (List.replicate (least - digits.length) '0' ++ digits))
  else none

/-- A text in capitals. -/
def inCapitals (capitals : Bool) (cs : List Char) : List Char :=
  if capitals then cs.map Char.toUpper else cs

/-- A quotient in a layout. -/
def Shape.write (shape : Shape) (style : FieldStyle) (num den : Nat) : List Char :=
  let count := style.precision.getD 6
  match shape with
  | fixed => Number.fixedLayout style.alternate num den count
  | scientific => Number.scientificLayout style.alternate num den count
  | general => Number.generalLayout style.alternate num den count

/-- A double. -/
def doubleForm (shape : Shape) (capitals : Bool) (style : FieldStyle) (x : Double) : List Char :=
  let (negative, digits) := match x with
    | .nan => (false, ['n', 'a', 'n'])
    | .infinite s => (s, ['i', 'n', 'f'])
    | .finite s m e =>
      let (num, den) := Double.magnitude m e
      (s, shape.write style num den)
  numberForm style negative [] (inCapitals capitals digits)

/-- A text with every character outside ASCII written by its number. -/
def asciiOnly (s : String) : String :=
  String.ofList (s.toList.flatMap fun c => if c.toNat < 0x80 then [c] else Text.numberEscape c.toNat)

end Log

namespace Value

open Number (Double)

/-- The value as a whole number: of a double the integer part. -/
def whole? : Value → Option Int
  | float x => x.truncate?
  | v => v.integer?

/-- The value as a double: of an integer the nearest one, if it is not too great. -/
def double? : Value → Option Double
  | float x => some x
  | v => v.integer?.bind fun n =>
    match Double.ofInt n with
    | .finite s m e => some (.finite s m e)
    | _ => none

/-- The value as a character: a text of one character, or the number of one. -/
def character? : Value → Option Char
  | text s =>
    match s.toList with
    | [c] => some c
    | _ => none
  | v => v.integer?.bind fun n =>
    if 0 ≤ n ∧ n.toNat.isValidChar then some (Char.ofNat n.toNat) else none

end Value

namespace Log

/-- A value, written in a form. -/
def fieldForm? (style : FieldStyle) (form : Form) (v : Value) : Option (List Char) :=
  match form with
  | .said => v.display?.map (textForm style)
  | .described => v.literal?.map (textForm style)
  | .ascii => v.literal?.map fun s => textForm style (asciiOnly s)
  | .decimal => v.whole?.bind (integerForm? style 10 [])
  | .octal => v.integer?.bind (integerForm? style 8 ['0', 'o'])
  | .hexadecimal capitals =>
    (v.integer?.bind (integerForm? style 16 ['0', 'x'])).map (inCapitals capitals)
  | .character => v.character?.map fun c => filled style [c]
  | .double shape capitals => v.double?.map (doubleForm shape capitals style)

/-! ## Filling a format -/

/-- The parts of a line by their names. -/
abbrev Parts := List (String × Value)

/-- The part with a name. -/
def Parts.part? (parts : Parts) (name : List Char) : Option Value :=
  parts.lookup (String.ofList name)

/-- All parts together. -/
def Parts.whole (parts : Parts) : Value := .dict (parts.map fun part => (.text part.1, part.2))

/-- A field.  `due` is what one without a name takes. -/
def fieldText? (parts : Parts) (due : Option Value) (name : Option (List Char))
    (style : FieldStyle) (form : Form) : Option (List Char) :=
  let v := match name with
    | some name => parts.part? name
    | none => due
  v.bind (fieldForm? style form)

/-- Fill pieces.  Behind a field nothing is due any more. -/
def fill? (parts : Parts) : Option Value → List Piece → Option (List Char)
  | _, [] => some []
  | due, .literal c :: ps => (fill? parts due ps).map (c :: ·)
  | due, .field name style form :: ps =>
    (fieldText? parts due name style form).bind fun cs => (fill? parts none ps).map (cs ++ ·)

/-- Write a line by the text of a format. -/
def write? (format : String) (parts : Parts) : Option String :=
  ((pieces? format.toList).bind (fill? parts (some parts.whole))).map String.ofList

/-- A number as wide as it is asked for, and two percent signs. -/
example : write? "%(share)05.1f%%" [("share", .int 3)] = some "003.0%" := by decide +kernel

end Log
end HttpTap
