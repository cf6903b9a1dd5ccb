import HttpTap.Text.Letter
import HttpTap.Value.Integer

/-!
# Headers

The headers of a request or a response are values under names, and names are compared without
regard to the case of their letters.  Setting a header again replaces its value and the spelling
of its name, and it stays where it is among the others.

## The declared length

The length header may be missing, malformed or negative; then the length is unknown, which is
written as `unknownLength`.  Reading it can fail in one way only: an infinite double is no
integer, and that fault is not one of those that mean "malformed".
-/

namespace HttpTap

/-- The length of a body whose length is not known. -/
def unknownLength : Int := -1

/-- Values under names, one for each name up to case. -/
structure Headers where
  entries : List (String × Value)
  deriving Inhabited

namespace Headers

/-- No headers. -/
def empty : Headers := ⟨[]⟩

/-- The value under a name. -/
def get? (h : Headers) (name : String) : Option Value :=
  (h.entries.find? fun e => Text.sameLetters e.1 name).map Prod.snd

/-- The headers without the name. -/
def erase (h : Headers) (name : String) : Headers :=
  ⟨h.entries.filter fun e => !Text.sameLetters e.1 name⟩

/-- Entries with a value put under a name: where the name stands, or at the end. -/
def put (name : String) (v : Value) : List (String × Value) → List (String × Value)
  | [] => [(name, v)]
  | e :: rest => if Text.sameLetters e.1 name then (name, v) :: rest else e :: put name v rest

/-- Put a value under a name. -/
def insert (h : Headers) (name : String) (v : Value) : Headers := ⟨put name v h.entries⟩

/-- The headers set one after the other. -/
def ofList (entries : List (String × Value)) : Headers :=
  entries.foldl (fun h e => h.insert e.1 e.2) empty

/-- The value under a name, or nothing at all. -/
def lookup (h : Headers) (name : String) : Value := (h.get? name).getD .null

/-- Names that differ in the case of their letters are one name. -/
theorem get?_congr {name other : String} (same : Text.sameLetters name other = true)
    (h : Headers) : h.get? name = h.get? other := by
  have both : ∀ e : String × Value, Text.sameLetters e.1 name = Text.sameLetters e.1 other := by
    intro e
    rw [Bool.eq_iff_iff]
    constructor
    · exact fun he => Text.sameLetters_trans he same
    · exact fun he => Text.sameLetters_trans he ((Text.sameLetters_comm _ _).trans same)
  rw [get?, get?]
  congr 2
  funext e
  exact both e

theorem get?_erase_same (h : Headers) (name : String) : (h.erase name).get? name = none := by
  simp [get?, erase, List.find?_eq_none]

/-- Taking a name away leaves every other name alone. -/
theorem get?_erase_other {name other : String} (apart : Text.sameLetters other name = false)
    (h : Headers) : (h.erase name).get? other = h.get? other := by
  have apart' : Text.sameLetters name other = false := by
    rw [Text.sameLetters_comm]
    exact apart
  rw [get?, get?, erase, List.find?_filter]
  congr 2
  funext e
  cases he : Text.sameLetters e.1 other with
  | false => simp
  | true => simp [Text.sameLetters_apart he apart']

theorem get?_insert_same (h : Headers) (name : String) (v : Value) :
    (h.insert name v).get? name = some v := by
  simp only [get?, insert]
  induction h.entries with
  | nil => simp [put, Text.sameLetters_refl]
  | cons e rest ih =>
    cases he : Text.sameLetters e.1 name with
    | true => simp [put, he, Text.sameLetters_refl]
    | false => simpa [put, he] using ih

/-- Putting a value under a name leaves every other name alone. -/
theorem get?_insert_other {name other : String} (apart : Text.sameLetters other name = false)
    (h : Headers) (v : Value) : (h.insert name v).get? other = h.get? other := by
  have new : Text.sameLetters name other = false := by
    rw [Text.sameLetters_comm]
    exact apart
  simp only [get?, insert]
  induction h.entries with
  | nil => simp [put, new]
  | cons e rest ih =>
    cases he : Text.sameLetters e.1 name with
    | true =>
      -- The entry that is replaced is not the one looked for.
      have old : Text.sameLetters e.1 other = false := Text.sameLetters_apart he apart
      simp [put, he, new, old]
    | false =>
      cases ho : Text.sameLetters e.1 other with
      | true => simp [put, he, ho]
      | false => simpa [put, he, ho] using ih

end Headers

/-- The names of the headers that describe a body. -/
def lengthHeader : String := "Content-Length"

@[inherit_doc lengthHeader] def typeHeader : String := "Content-Type"

@[inherit_doc lengthHeader] def encodingHeader : String := "Content-Encoding"

@[inherit_doc lengthHeader] def transferHeader : String := "Transfer-Encoding"

/-- Does the fault mean that a value is no number? -/
def FaultKind.isMalformed : FaultKind → Bool
  | .type | .value => true
  | _ => false

/-- The length that headers declare, or `unknownLength`. -/
def declaredLength (headers : Option Headers) : Except Fault Int :=
  match headers.bind fun h => h.get? lengthHeader with
  | none | some .null => .ok unknownLength
  | some v =>
    match v.toInteger with
    | .ok n => .ok (if 0 ≤ n then n else unknownLength)
    | .error f => if f.kind.isMalformed then .ok unknownLength else .error f

end HttpTap
