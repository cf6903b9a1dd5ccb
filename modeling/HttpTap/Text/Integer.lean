import HttpTap.Text.Blank
import HttpTap.Text.Digit

/-!
# Reading integers

An integer is written as an optional sign and digits, where one underscore may stand between
two digits.  Blanks around it are ignored; which characters may pad a number is narrower than
what trimming removes, since the four information separators are no padding.

Reading is by groups: cut at the underscores, every group must hold at least one digit and
nothing else.  This says in one line that underscores neither lead, nor trail, nor meet.

In base ten the number of digits is limited, because reading a numeral of `n` digits takes time
in the square of `n`.
-/

namespace HttpTap
namespace Text

/-- The characters that may stand around a number: the blanks without the separators. -/
def isPadding (c : Char) : Bool := isBlank c && !(0x1C ≤ c.toNat && c.toNat ≤ 0x1F)

/-- The list without padding at either end. -/
def unpad (cs : List Char) : List Char :=
  ((cs.dropWhile isPadding).reverse.dropWhile isPadding).reverse

/-- The value of a digit in bases up to thirty-six: a decimal digit of any script or a letter. -/
def digitOrLetter? (c : Char) : Option Nat :=
  match digitValue? c with
  | some d => some d
  | none =>
    let n := c.toNat
    if 0x61 ≤ n && n ≤ 0x7A then some (n - 0x61 + 10)
    else if 0x41 ≤ n && n ≤ 0x5A then some (n - 0x41 + 10)
    else none

/-- The value of a character as a digit of the base. -/
def digitIn? (base : Nat) (c : Char) : Option Nat :=
  (digitOrLetter? c).filter (· < base)

/-- Cut a list at every underscore. -/
def groups : List Char → List (List Char)
  | [] => [[]]
  | c :: cs =>
    if c == '_' then [] :: groups cs
    else
      match groups cs with
      | [] => [[c]]
      | g :: gs => (c :: g) :: gs

/-- The digits of a numeral, most significant first, if it is one. -/
def numeralDigits? (base : Nat) (cs : List Char) : Option (List Nat) :=
  let gs := groups cs
  if gs.any List.isEmpty then none else gs.flatten.mapM (digitIn? base)

/-- The number with the given digits, most significant first. -/
def ofDigits (base : Nat) (ds : List Nat) : Nat := ds.foldl (fun n d => n * base + d) 0

/-- How many digits a decimal numeral may have. -/
def maxDigits : Nat := 4300

/-- Does the numeral respect the limit?  Bases that are powers of two have none. -/
def withinLimit (base : Nat) (ds : List Nat) : Bool :=
  base == 2 || base == 8 || base == 16 || ds.length ≤ maxDigits

/-- The letter that may announce a base, after a zero. -/
def baseLetters (base : Nat) : List Char :=
  if base == 16 then ['x', 'X'] else if base == 8 then ['o', 'O']
  else if base == 2 then ['b', 'B'] else []

/-- The numeral without the mark of its base. -/
def dropBaseMark (base : Nat) : List Char → List Char
  | '0' :: c :: cs => if (baseLetters base).contains c then cs else '0' :: c :: cs
  | cs => cs

/-- The number that an unsigned numeral stands for. -/
def numeral? (base : Nat) (cs : List Char) : Option Nat :=
  match numeralDigits? base (dropBaseMark base cs) with
  | some ds => if withinLimit base ds then some (ofDigits base ds) else none
  | none => none

/-- The integer that a padded, signed numeral stands for. -/
def integer? (base : Nat) (cs : List Char) : Option Int :=
  match unpad cs with
  | '-' :: ds => (numeral? base ds).map fun n => -(n : Int)
  | '+' :: ds => (numeral? base ds).map Int.ofNat
  | ds => (numeral? base ds).map Int.ofNat

/-- The integer that a text stands for in base ten. -/
def decimal? (s : String) : Option Int := integer? 10 s.toList

example : decimal? " +1_000 " = some 1000 := by decide +kernel

example : decimal? "1__0" = none ∧ decimal? "_1" = none ∧ decimal? "1_" = none := by
  decide +kernel

end Text
end HttpTap
