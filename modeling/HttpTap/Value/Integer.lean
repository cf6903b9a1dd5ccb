import HttpTap.Value.Content

/-!
# Values as numbers

A length is compared with the size limit, and a header is read as a number.  Both may be given
as any value.  Comparing is exact for integers, truth values and doubles, also where a double
could not hold the integer; a value that is no number compares with nothing.  Reading accepts
numerals in texts and in bytes as well, and cuts the fraction off a double.
-/

namespace HttpTap
namespace Value

/-! ## Comparing -/

/-- Is the value this integer? -/
def equalsInt (v : Value) (k : Int) : Bool :=
  match v with
  | float x => x.compareInt? k == some .eq
  | v => v.integer? == some k

/-- How a value stands to an integer: nothing for a double that is not a number, a fault for a
value that is no number at all. -/
def compareInt (v : Value) (k : Int) : Except Fault (Option Ordering) :=
  match v with
  | float x => .ok (x.compareInt? k)
  | v =>
    match v.integer? with
    | some n => .ok (some (compare n k))
    | none =>
      .error (.misuse .type
        ("'>' not supported between instances of '" ++ v.typeName ++ "' and 'int'"))

/-- Is the value greater than the integer? -/
def exceeds (v : Value) (k : Int) : Except Fault Bool := do
  return (← v.compareInt k) == some .gt

/-- Is the value the integer or greater? -/
def reaches (v : Value) (k : Int) : Except Fault Bool := do
  let order ← v.compareInt k
  return order == some .gt || order == some .eq

@[simp] theorem equalsInt_int (n k : Int) : (int n).equalsInt k = (n == k) := by
  simp [equalsInt, integer?]

@[simp] theorem exceeds_int (n k : Int) : (int n).exceeds k = .ok (decide (k < n)) := by
  simp only [exceeds, compareInt, integer?, bind, Except.bind, pure, Except.pure, compare,
    compareOfLessAndEq]
  congr 1
  split
  · simp; omega
  · split <;> simp <;> omega

@[simp] theorem reaches_int (n k : Int) : (int n).reaches k = .ok (decide (k ≤ n)) := by
  simp only [reaches, compareInt, integer?, bind, Except.bind, pure, Except.pure, compare,
    compareOfLessAndEq]
  congr 1
  split
  · simp; omega
  · split <;> simp <;> omega

/-- Whatever is an integer compares as one. -/
theorem compareInt_of_integer? {v : Value} {n : Int} (h : v.integer? = some n) (k : Int) :
    v.compareInt k = (int n).compareInt k := by
  cases v <;> simp_all [compareInt, integer?]

theorem equalsInt_of_integer? {v : Value} {n : Int} (h : v.integer? = some n) (k : Int) :
    v.equalsInt k = (n == k) := by
  cases v <;> simp_all [equalsInt, integer?]

theorem exceeds_of_integer? {v : Value} {n : Int} (h : v.integer? = some n) (k : Int) :
    v.exceeds k = .ok (decide (k < n)) := by
  rw [exceeds, compareInt_of_integer? h]
  exact exceeds_int n k

theorem reaches_of_integer? {v : Value} {n : Int} (h : v.integer? = some n) (k : Int) :
    v.reaches k = .ok (decide (k ≤ n)) := by
  rw [reaches, compareInt_of_integer? h]
  exact reaches_int n k

/-! ## Reading -/

/-- The fault for a text that is no numeral. -/
def badNumeral : Fault := .misuse .value "invalid literal for int() with base 10"

/-- The characters of a byte string that is plain ASCII. -/
def asciiChars? (bs : Bytes) : Option (List Char) :=
  if bs.all (· < 0x80) then some (bs.map fun b => Char.ofNat b.toNat) else none

/-- The integer that a value stands for. -/
def toInteger : Value → Except Fault Int
  | int n => .ok n
  | bool b => .ok (if b then 1 else 0)
  | text s =>
    match Text.decimal? s with
    | some n => .ok n
    | none => .error badNumeral
  | bytes bs =>
    match (asciiChars? bs).bind (Text.integer? 10) with
    | some n => .ok n
    | none => .error badNumeral
  | float x =>
    match x, x.truncate? with
    | _, some n => .ok n
    | .infinite _, none =>
      .error (.misuse .overflow "cannot convert float infinity to integer")
    | _, none => .error (.misuse .value "cannot convert float NaN to integer")
  | v =>
    .error (.misuse .type
      ("int() argument must be a string, a bytes-like object or a real number, not '" ++
        v.typeName ++ "'"))

end Value
end HttpTap
