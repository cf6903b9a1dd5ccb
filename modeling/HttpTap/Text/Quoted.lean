import HttpTap.Text.Printable
import HttpTap.Text.Utf8

/-!
# Quoted texts

A message that names a bad setting shows it in quotes, so that blanks and invisible characters
can be seen.  The single quote is the usual mark; a text that holds a single quote and no
double quote is put in double quotes instead, so that nothing in it needs an escape on account
of the marks.  Inside, the backslash, the mark itself, the tab and the two line breaks have
two-character escapes, every other character that is not printable is written by its number.

Byte strings are quoted in the same way after a `b`; there everything outside the printable
range of ASCII is written by its number.
-/

namespace HttpTap
namespace Text

/-- The digits of a number in base sixteen, in small letters, padded with zeros on the left. -/
def hexDigits (width n : Nat) : List Char :=
  let digits := Nat.toDigits 16 n
  List.replicate (width - digits.length) '0' ++ digits

/-- The mark that a text is put between. -/
def quoteMark (cs : List Char) : Char :=
  if '\'' ∈ cs && '"' ∉ cs then '"' else '\''

/-- The escapes of two characters. -/
def shortEscape? (mark c : Char) : Option (List Char) :=
  if c == mark || c == '\\' then some ['\\', c]
  else if c == '\t' then some ['\\', 't']
  else if c == '\n' then some ['\\', 'n']
  else if c == '\r' then some ['\\', 'r']
  else none

/-- The escape that gives the number of a character in two, four or eight digits. -/
def numberEscape (n : Nat) : List Char :=
  if n < 0x100 then ['\\', 'x'] ++ hexDigits 2 n
  else if n < 0x10000 then ['\\', 'u'] ++ hexDigits 4 n
  else ['\\', 'U'] ++ hexDigits 8 n

/-- One character inside a quoted text. -/
def quoteChar (mark c : Char) : List Char :=
  match shortEscape? mark c with
  | some escape => escape
  | none => if isPrintable c then [c] else numberEscape c.toNat

/-- A text between quotes. -/
def quoted (s : String) : String :=
  let cs := s.toList
  let mark := quoteMark cs
  String.ofList (mark :: cs.flatMap (quoteChar mark) ++ [mark])

/-- One byte inside a quoted byte string. -/
def quoteByte (mark : Char) (b : UInt8) : List Char :=
  let c := Char.ofNat b.toNat
  match shortEscape? mark c with
  | some escape => escape
  | none => if 0x20 ≤ b && b < 0x7F then [c] else numberEscape b.toNat

/-- A byte string between quotes. -/
def quotedBytes (bs : Bytes) : String :=
  let mark := quoteMark (bs.map fun b => Char.ofNat b.toNat)
  String.ofList ('b' :: mark :: bs.flatMap (quoteByte mark) ++ [mark])

/-- A text with a single quote in it is put between double quotes. -/
example : quoted "it's" = "\"it's\"" := by decide +kernel

/-- With both marks in it, the single quote is escaped. -/
example : quoted "'\"" = "'\\'\"'" := by decide +kernel

end Text
end HttpTap
