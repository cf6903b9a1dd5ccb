import HttpTap.Number.Double

/-!
# The shortest decimal of a double

A double is shown with the fewest digits that read back as the same double, and among those
with the digits nearest to it.

The reals that round to a double form an interval around it, ends included when the mantissa is
even.  A decimal of `n` digits reads back exactly when it lies in the interval.  On the grid of
`n`-digit decimals the two neighbours of the number itself are the only candidates, because a
grid point in the interval leaves one of them in the interval as well.  Seventeen digits always
suffice, so the search over `n` ends.

All of it is arithmetic on natural numbers: the number, the ends of the interval and the grid
points are brought to one denominator.

## Layout

Between `1e-4` and `1e16` the digits are written around a point and a whole number keeps `.0`;
outside, one digit stands before the point and the power of ten follows with its sign and at
least two digits.
-/

namespace HttpTap
namespace Number

/-- A decimal: `digits` is read as a fraction `0.ddd`, times ten to `point`. -/
structure Decimal where
  digits : List Char
  point : Int
  deriving DecidableEq

/-- A positive rational that has an interval of rationals rounding to it; all four numbers share
one denominator. -/
structure Neighbourhood where
  low : Nat
  value : Nat
  high : Nat
  den : Nat
  closed : Bool

/-- The reals that round to `mantissa * 2 ^ exponent`.  Below a power of two the neighbour is
only half as far away. -/
def neighbourhood (mantissa : Nat) (exponent : Int) : Neighbourhood :=
  let below := if mantissa = leastMantissa ∧ -1074 < exponent then 1 else 2
  let (n, d) := scaled 1 (exponent - 2)
  { low := (4 * mantissa - below) * n
    value := 4 * mantissa * n
    high := (4 * mantissa + 2) * n
    den := d
    closed := mantissa % 2 == 0 }

/-- Does `num / den` round to the number in the middle? -/
def Neighbourhood.holds (r : Neighbourhood) (num den : Nat) : Bool :=
  let x := num * r.den
  if r.closed then r.low * den ≤ x && x ≤ r.high * den else r.low * den < x && x < r.high * den

/-- How often the number must be multiplied by ten to reach one tenth. -/
def leadingZeros (num den : Nat) : Nat → Nat
  | 0 => 0
  | fuel + 1 => if den ≤ num * 10 then 0 else leadingZeros (num * 10) den fuel + 1

/-- The power `p` with `10 ^ (p - 1) ≤ num / den < 10 ^ p`. -/
def pointOf (num den : Nat) : Int :=
  if den ≤ num then (Nat.toDigits 10 (num / den)).length
  else -(leadingZeros num den 400 : Int)

/-- The better of the two neighbours on the grid of `count` digits, if one reads back. -/
def onGrid? (r : Neighbourhood) (point : Int) (count : Nat) : Option Nat :=
  let shift := (count : Int) - point
  let (up, down) : Nat × Nat :=
    if 0 ≤ shift then (Nat.pow 10 shift.toNat, 1) else (1, Nat.pow 10 (-shift).toNat)
  let num := r.value * up
  let den := r.den * down
  let q := num / den
  let rest := num % den
  let below := r.holds (q * down) up
  let above := r.holds ((q + 1) * down) up
  match below, above with
  | true, true =>
    some (if 2 * rest < den then q else if den < 2 * rest then q + 1
      else if q % 2 = 0 then q else q + 1)
  | true, false => some q
  | false, true => some (q + 1)
  | false, false => none

/-- The first grid with a hit, from `count` digits on. -/
def firstGrid (r : Neighbourhood) (point : Int) (count : Nat) : Nat → Nat × Nat
  | 0 => (r.value, count)
  | fuel + 1 =>
    match onGrid? r point count with
    | some q => (q, count)
    | none => firstGrid r point (count + 1) fuel

/-- A list of digits without the zeros at its end. -/
def dropZeros (cs : List Char) : List Char := (cs.reverse.dropWhile (· == '0')).reverse

/-- The shortest decimal that reads back as `mantissa * 2 ^ exponent`. -/
def shortest (mantissa : Nat) (exponent : Int) : Decimal :=
  let r := neighbourhood mantissa exponent
  let point := pointOf r.value r.den
  let (q, count) := firstGrid r point 1 17
  let digits := Nat.toDigits 10 q
  { digits := dropZeros digits, point := point + (digits.length - count : Int) }

/-- How decimals are laid out. -/
structure Layout where
  /-- The least power of ten written without an exponent. -/
  leastPoint : Int
  /-- The greatest power of ten written without an exponent. -/
  greatestPoint : Int
  /-- The least number of digits of an exponent. -/
  exponentWidth : Nat

/-- Positional from `0.0001` to `9999999999999999.0`, exponents of two digits outside. -/
def plainLayout : Layout := ⟨-3, 16, 2⟩

/-- The written form of a decimal. -/
def Layout.write (l : Layout) (d : Decimal) : List Char :=
  let count : Int := d.digits.length
  if l.leastPoint ≤ d.point && d.point ≤ l.greatestPoint then
    if d.point ≤ 0 then '0' :: '.' :: List.replicate (-d.point).toNat '0' ++ d.digits
    else if count ≤ d.point then
      d.digits ++ List.replicate (d.point - count).toNat '0' ++ ['.', '0']
    else d.digits.take d.point.toNat ++ '.' :: d.digits.drop d.point.toNat
  else
    let exponent := d.point - 1
    let power := Nat.toDigits 10 exponent.natAbs
    let padded := List.replicate (l.exponentWidth - power.length) '0' ++ power
    let fraction := match d.digits.drop 1 with
      | [] => []
      | ds => '.' :: ds
    d.digits.take 1 ++ fraction ++ ['e', if exponent < 0 then '-' else '+'] ++ padded

/-- The text of a double. -/
def Double.text : Double → String
  | nan => "nan"
  | infinite s => if s then "-inf" else "inf"
  | finite s m e =>
    let body := if m = 0 then ['0', '.', '0'] else plainLayout.write (shortest m e)
    String.ofList (if s then '-' :: body else body)

example : (Double.ofDecimal false 1 (-5)).text = "1e-05" := by decide +kernel

example : (Double.ofDecimal false 4096 0).text = "4096.0" := by decide +kernel

example : (Double.ofRatio true 1 3).text = "-0.3333333333333333" := by decide +kernel

end Number
end HttpTap
