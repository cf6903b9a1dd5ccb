import HttpTap.Number.Shortest
import HttpTap.Text.Integer
import HttpTap.Text.Quoted
import HttpTap.Value.Moment

/-!
# Dynamic values

Some of what the library meets has no type known in advance: the entries of a settings file,
the value of a header, what a foreign stream gives back when it is read.  `Value` is the sum of
all of them.

A value has two written forms.  `literal?` shows what it is (texts in quotes, nested values
inside their brackets), and `display?` shows what it says (a text as it stands).  Both are
partial for one reason only: an integer of more digits than `Text.maxDigits` is not written out.
-/

namespace HttpTap

open Number (Double)

/-- A dynamic value.  A mapping keeps its entries in the order in which they came.  `cycle`
stands where a list or a mapping contains itself. -/
inductive Value where
  | null
  | bool (b : Bool)
  | int (n : Int)
  | float (x : Double)
  | text (s : String)
  | bytes (bs : Bytes)
  | list (vs : List Value)
  | tuple (vs : List Value)
  | set (vs : List Value)
  | dict (entries : List (Value × Value))
  | moment (t : Moment)
  | cycle (isMapping : Bool)
  deriving Inhabited

namespace Value

/-! ## Size and truth -/

/-- The length of a value that has one. -/
def length? : Value → Option Nat
  | text s => some s.length
  | bytes bs => some bs.length
  | list vs | tuple vs | set vs => some vs.length
  | dict es => some es.length
  | _ => none

/-- Does the value count as true?  False are nothing, the false truth value, the zeros and
everything empty. -/
def truthy : Value → Bool
  | null => false
  | bool b => b
  | int n => n != 0
  | float x => !x.isZero
  | text s => s != ""
  | bytes bs => !bs.isEmpty
  | list vs | tuple vs | set vs => !vs.isEmpty
  | dict es => !es.isEmpty
  | moment _ => true
  | cycle _ => true

/-- The value as an integer, for the values that are integers: truth values are zero and one. -/
def integer? : Value → Option Int
  | int n => some n
  | bool b => some (if b then 1 else 0)
  | _ => none

@[simp] theorem truthy_bytes (bs : Bytes) : (bytes bs).truthy = !bs.isEmpty := rfl

/-! ## Written forms -/

/-- The decimal numeral of an integer, if it is not too long. -/
def numeral? (n : Int) : Option String :=
  if (Nat.toDigits 10 n.natAbs).length ≤ Text.maxDigits then some (toString n) else none

mutual

/-- The descriptive form of a value. -/
def literal? : Value → Option String
  | null => some "None"
  | bool b => some (if b then "True" else "False")
  | int n => numeral? n
  | float x => some x.text
  | text s => some (Text.quoted s)
  | bytes bs => some (Text.quotedBytes bs)
  | list vs => (literals? vs).map fun ts => "[" ++ ", ".intercalate ts ++ "]"
  | tuple vs =>
    (literals? vs).map fun ts =>
      match ts with
      | [t] => "(" ++ t ++ ",)"
      | ts => "(" ++ ", ".intercalate ts ++ ")"
  | set vs =>
    (literals? vs).map fun ts =>
      match ts with
      | [] => "set()"
      | ts => "\x7b" ++ ", ".intercalate ts ++ "\x7d"
  | dict es => (entryLiterals? es).map fun ts => "\x7b" ++ ", ".intercalate ts ++ "\x7d"
  | moment t => some t.literal
  | cycle isMapping => some (if isMapping then "\x7b...\x7d" else "[...]")

/-- The descriptive forms of a list of values. -/
def literals? : List Value → Option (List String)
  | [] => some []
  | v :: vs =>
    match literal? v, literals? vs with
    | some t, some ts => some (t :: ts)
    | _, _ => none

/-- The descriptive forms of the entries of a mapping. -/
def entryLiterals? : List (Value × Value) → Option (List String)
  | [] => some []
  | (k, v) :: es =>
    match literal? k, literal? v, entryLiterals? es with
    | some tk, some tv, some ts => some ((tk ++ ": " ++ tv) :: ts)
    | _, _, _ => none

end

/-- What a value says: a text says itself, a moment its plain form, all else is described. -/
def display? : Value → Option String
  | text s => some s
  | moment t => some t.text
  | v => v.literal?

@[simp] theorem display?_text (s : String) : (text s).display? = some s := rfl

@[simp] theorem display?_bool (b : Bool) :
    (bool b).display? = some (if b then "True" else "False") := by
  simp [display?, literal?]

example : (list [int 1, text "a", null, bool true]).literal? = some "[1, 'a', None, True]" := by
  decide +kernel

end Value
end HttpTap
