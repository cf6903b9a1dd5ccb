import HttpTap.Number.Double
import HttpTap.Text.Integer
import HttpTap.Text.Letter

/-!
# Reading a double

A numeral with a fraction is a sign, digits around a point, and a power of ten after the letter
`e`.  Either side of the point may be missing, not both.  Underscores and padding follow the
rules of integers.  The words for infinity and for "not a number" are read in any case.

The digits before and after the point make one natural number, so reading is one exact
decimal and one rounding.
-/

namespace HttpTap
namespace Number

open Text

/-- A run of digits, possibly empty. -/
def digitRun? (cs : List Char) : Option (List Nat) :=
  if cs.isEmpty then some [] else numeralDigits? 10 cs

/-- A power of ten: an optional sign and at least one digit. -/
def power? : List Char → Option Int
  | '-' :: ds => (numeralDigits? 10 ds).map fun d => -(ofDigits 10 d : Int)
  | '+' :: ds => (numeralDigits? 10 ds).map fun d => (ofDigits 10 d : Int)
  | ds => (numeralDigits? 10 ds).map fun d => (ofDigits 10 d : Int)

/-- The part before the first character with the property, and the part after it if there is
one. -/
def cutAt (p : Char → Bool) (cs : List Char) : List Char × Option (List Char) :=
  match cs.dropWhile fun c => !p c with
  | [] => (cs, none)
  | _ :: rest => (cs.takeWhile fun c => !p c, some rest)

/-- An unsigned numeral. -/
def unsigned? (negative : Bool) (cs : List Char) : Option Double :=
  let (significand, power) := cutAt (fun c => c == 'e' || c == 'E') cs
  let (whole, fraction) := cutAt (· == '.') significand
  match digitRun? whole, digitRun? (fraction.getD []),
      (match power with | none => some 0 | some p => power? p) with
  | some w, some f, some p =>
    if w.isEmpty && f.isEmpty then none
    else some (Double.ofDecimal negative (ofDigits 10 (w ++ f)) (p - f.length))
  | _, _, _ => none

/-- The words that stand for the doubles without digits. -/
def word? (negative : Bool) (cs : List Char) : Option Double :=
  match small (String.ofList cs) with
  | "inf" | "infinity" => some (.infinite negative)
  | "nan" => some .nan
  | _ => none

/-- The double that a text stands for. -/
def double? (cs : List Char) : Option Double :=
  let (negative, body) : Bool × List Char := match unpad cs with
    | '-' :: ds => (true, ds)
    | '+' :: ds => (false, ds)
    | ds => (false, ds)
  (word? negative body).orElse fun _ => unsigned? negative body

end Number
end HttpTap
