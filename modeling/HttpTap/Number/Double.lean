/-!
# Double precision numbers

A setting may be a number with a fraction, and then it is a double of the usual 64-bit format.
Nothing here computes with machine floats.  A double is kept as what it stands for: a sign, a
mantissa and a power of two, so that comparing, truncating and printing are exact arithmetic
on natural numbers.

A finite double is `mantissa * 2 ^ exponent` with `mantissa < 2 ^ 53` and
`-1074 ≤ exponent`.  `ofRatio` keeps to the form in which the mantissa is as long as the
exponent allows, so that equal numbers have one form each (the two zeros apart).

## Rounding

Every operation is exact first and rounded once.  A quotient of two naturals goes to the
nearest double; halfway between two, to the one with the even mantissa; too large, to infinity.
-/

namespace HttpTap
namespace Number

/-- A double: not a number, an infinity, or a finite number with its sign. -/
inductive Double where
  | nan
  | infinite (negative : Bool)
  | finite (negative : Bool) (mantissa : Nat) (exponent : Int)
  deriving DecidableEq

/-- The number at which a mantissa is one bit too long. -/
def mantissaLimit : Nat := 9007199254740992

/-- The least mantissa of full length, half of the limit. -/
def leastMantissa : Nat := 4503599627370496

/-- `n * 2 ^ shift` for a shift to the left, or the quotient for a shift to the right. -/
def scaled (n : Nat) (shift : Int) : Nat × Nat :=
  if 0 ≤ shift then (n <<< shift.toNat, 1) else (n, 1 <<< (-shift).toNat)

/-- The nearest natural number to a quotient, a half going to the even neighbour. -/
def roundQuotient (num den : Nat) : Nat :=
  let q := num / den
  let r := num % den
  if 2 * r < den then q
  else if den < 2 * r then q + 1
  else if q % 2 = 0 then q else q + 1

/-- The length of a number in base two. -/
def bitLength (n : Nat) : Nat := if n = 0 then 0 else Nat.log2 n + 1

namespace Double

/-- The two zeros. -/
def zero (negative : Bool) : Double := .finite negative 0 (-1074)

/-- The double nearest to `num / den`.  The first guess at the exponent comes from the lengths
of the two numbers and may be one too small; then the mantissa comes out one bit too long and
the exponent is raised by one. -/
def ofRatio (negative : Bool) (num den : Nat) : Double :=
  if num = 0 ∨ den = 0 then zero negative
  else
    let guess : Int := (bitLength num : Int) - bitLength den - 53
    let at_ (e : Int) : Nat :=
      let (n, d) := scaled num (-e)
      roundQuotient n (den * d)
    let e := max guess (-1074)
    let e := if at_ e ≥ mantissaLimit then e + 1 else e
    let m := at_ e
    let (m, e) := if m = mantissaLimit then (leastMantissa, e + 1) else (m, e)
    if 971 < e then .infinite negative else .finite negative m e

/-- The double nearest to `digits * 10 ^ power`.  Powers far outside the range of a double are
settled without computing them. -/
def ofDecimal (negative : Bool) (digits : Nat) (power : Int) : Double :=
  if digits = 0 then zero negative
  else if power + (Nat.toDigits 10 digits).length > 400 then .infinite negative
  else if power + (Nat.toDigits 10 digits).length < -400 then zero negative
  else if 0 ≤ power then ofRatio negative (digits * Nat.pow 10 power.toNat) 1
  else ofRatio negative digits (Nat.pow 10 (-power).toNat)

/-- The double nearest to an integer. -/
def ofInt (n : Int) : Double := ofRatio (n < 0) n.natAbs 1

/-- Numerator and denominator of the magnitude of a finite double. -/
def magnitude (mantissa : Nat) (exponent : Int) : Nat × Nat := scaled mantissa exponent

/-- The double with the other sign. -/
def neg : Double → Double
  | nan => nan
  | infinite s => infinite !s
  | finite s m e => finite (!s) m e

/-- The integer part: the number without its fraction.  Only finite numbers have one. -/
def truncate? : Double → Option Int
  | finite s m e =>
    let (n, d) := magnitude m e
    let q : Int := (n / d : Nat)
    some (if s then -q else q)
  | _ => none

/-- How a double compares with an integer; nothing compares with `nan`. -/
def compareInt? (x : Double) (k : Int) : Option Ordering :=
  match x with
  | nan => none
  | infinite s => some (if s then .lt else .gt)
  | finite s m e =>
    let (n, d) := magnitude m e
    let num : Int := if s then -(n : Int) else n
    some (compare num (k * d))

/-- Is the number zero, of either sign? -/
def isZero : Double → Bool
  | finite _ m _ => m == 0
  | _ => false

/-- The sum, rounded once. -/
def add : Double → Double → Double
  | nan, _ | _, nan => nan
  | infinite s, infinite t => if s == t then infinite s else nan
  | infinite s, _ | _, infinite s => infinite s
  | finite s m e, finite t n f =>
    let low := min e f
    let a : Int := (m <<< (e - low).toNat : Nat)
    let b : Int := (n <<< (f - low).toNat : Nat)
    let sum := (if s then -a else a) + (if t then -b else b)
    if sum = 0 then zero (s && t)
    else
      let (num, den) := scaled sum.natAbs low
      ofRatio (sum < 0) num den

/-- The product with a natural number, rounded once. -/
def mulNat (x : Double) (k : Nat) : Double :=
  match x with
  | nan => nan
  | infinite s => if k = 0 then nan else infinite s
  | finite s m e =>
    let (num, den) := magnitude m e
    ofRatio s (num * k) den

end Double

example : Double.ofDecimal false 5 (-1) = .finite false leastMantissa (-53) := by decide +kernel

/-- A third lies between two doubles and goes to the nearer one. -/
example : Double.ofRatio false 1 3 = .finite false 6004799503160661 (-54) := by decide +kernel

end Number
end HttpTap
