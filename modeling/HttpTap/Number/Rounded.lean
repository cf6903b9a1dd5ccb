import HttpTap.Number.Shortest

/-!
# Decimals of a given length

Where a text asks for so many digits, a number is rounded to them: to so many behind the point, or
to so many from the first one on.  The number is a quotient of two naturals, and rounding is exact;
halfway between two decimals it goes to the one with the even last digit.

There are three layouts.  The first has a fixed number of digits behind the point, the second one
digit in front of it and a power of ten, and the third is one of the two, whichever suits the size of
the number, without zeros at the end.  A point with no digits behind it is left out unless it is
wanted; where it is wanted the zeros stay as well.
-/

namespace HttpTap
namespace Number

/-- `num / den` times a power of ten, as the nearest natural number. -/
def roundedAt (num den : Nat) (shift : Int) : Nat :=
  if 0 ≤ shift then roundQuotient (num * Nat.pow 10 shift.toNat) den
  else roundQuotient num (den * Nat.pow 10 (-shift).toNat)

/-- Digits in front of a point and behind it. -/
def pointed (keep : Bool) (whole fraction : List Char) : List Char :=
  if fraction.isEmpty && !keep then whole else whole ++ '.' :: fraction

/-- A power of ten, with its sign and at least two digits. -/
def powerOfTen (exponent : Int) : List Char :=
  let digits := Nat.toDigits 10 exponent.natAbs
  ['e', if exponent < 0 then '-' else '+'] ++ List.replicate (2 - digits.length) '0' ++ digits

/-- The nearest decimal of so many digits, one at least.  Rounding up may make one digit more; it
is a zero then. -/
def significant (num den count : Nat) : Decimal :=
  if num = 0 then ⟨List.replicate count '0', 1⟩
  else
    let point := pointOf num den
    let digits := Nat.toDigits 10 (roundedAt num den (count - point))
    ⟨digits.take count, point + (digits.length - count : Int)⟩

/-- So many digits behind the point. -/
def fixedLayout (keep : Bool) (num den count : Nat) : List Char :=
  let digits := Nat.toDigits 10 (roundedAt num den count)
  let digits := List.replicate (count + 1 - digits.length) '0' ++ digits
  let whole := digits.length - count
  pointed keep (digits.take whole) (digits.drop whole)

/-- One digit in front of the point, and the power of ten. -/
def Decimal.scientific (keep : Bool) (d : Decimal) : List Char :=
  pointed keep (d.digits.take 1) (d.digits.drop 1) ++ powerOfTen (d.point - 1)

/-- The digits around the point, with zeros where there are none. -/
def Decimal.positional (keep : Bool) (d : Decimal) : List Char :=
  if d.point ≤ 0 then pointed keep ['0'] (List.replicate (-d.point).toNat '0' ++ d.digits)
  else
    let whole := d.point.toNat
    pointed keep (d.digits.take whole ++ List.replicate (whole - d.digits.length) '0')
      (d.digits.drop whole)

/-- One digit in front of the point and so many behind it, and the power of ten. -/
def scientificLayout (keep : Bool) (num den count : Nat) : List Char :=
  (significant num den (count + 1)).scientific keep

/-- The decimal without the zeros at its end, unless they are wanted. -/
def Decimal.trimmed (keep : Bool) (d : Decimal) : Decimal :=
  ⟨if keep then d.digits else dropZeros d.digits, d.point⟩

/-- So many digits at most; with a power of ten only for numbers that are very small or have more
digits in front of the point. -/
def generalLayout (keep : Bool) (num den count : Nat) : List Char :=
  let count := max count 1
  let d := (significant num den count).trimmed keep
  if d.point ≤ -4 || count < d.point then d.scientific keep else d.positional keep

/-- Two and a half lies halfway, and two is even. -/
example : String.ofList (fixedLayout false 5 2 0) = "2" := by decide +kernel

example : String.ofList (scientificLayout false 99999999 10 6) = "1.000000e+07" := by decide +kernel

end Number
end HttpTap
