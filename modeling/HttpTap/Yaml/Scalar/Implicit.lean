import HttpTap.Yaml.Scalar.Stamp
import HttpTap.Yaml.Tag

/-!
# What a plain scalar stands for

A scalar that is written plain and carries no tag may still stand for more than a text.  Its form
decides: numerals in several bases, the words for truth and for nothing, moments, and the two
marks that mean something as keys.  All else is text.

The forms are ASCII only and case matters.  A line break at the end is not part of the form.
-/

namespace HttpTap
namespace Yaml
namespace Implicit

/-- The words for truth values. -/
def truths : List (String × Bool) :=
  [("yes", true), ("no", false), ("true", true), ("false", false), ("on", true), ("off", false)]

/-- The three ways to write a word: small, with a capital, in capitals. -/
def writings (word : String) : List String := [word, word.capitalize, word.toUpper]

/-- Is it a word for a truth value? -/
def isTruth (cs : List Char) : Bool :=
  truths.any fun (word, _) => (writings word).contains (String.ofList cs)

/-- Is it a word for nothing? -/
def isNull (cs : List Char) : Bool :=
  cs.isEmpty || cs == ['~'] || (writings "null").contains (String.ofList cs)

/-- The numeral without its sign. -/
def unsigned : List Char → List Char
  | '+' :: cs | '-' :: cs => cs
  | cs => cs

/-- One or more characters that are digits of the kind or underscores. -/
def isRun (digit : Char → Bool) (cs : List Char) : Bool :=
  !cs.isEmpty && cs.all fun c => digit c || c == '_'

/-- Digits and underscores, with a digit in front. -/
def isDecimal (cs : List Char) : Bool :=
  cs.head?.any Char.isDigit && cs.all fun c => c.isDigit || c == '_'

/-- Cut a list at every colon. -/
def cutAtColons : List Char → List (List Char)
  | [] => [[]]
  | c :: cs =>
    if c == ':' then [] :: cutAtColons cs
    else
      match cutAtColons cs with
      | [] => [[c]]
      | g :: gs => (c :: g) :: gs

/-- A number below sixty: one or two digits. -/
def isSixtieth : List Char → Bool
  | [a] => a.isDigit
  | [a, b] => '0' ≤ a && a ≤ '5' && b.isDigit
  | _ => false

/-- Numbers to the base sixty, with colons between them. -/
def isSexagesimal (cs : List Char) : Bool :=
  match cutAtColons cs with
  | first :: second :: rest => isDecimal first && (second :: rest).all isSixtieth
  | _ => false

/-- Is it an integer: binary, octal, decimal, hexadecimal or sexagesimal? -/
def isInteger (cs : List Char) : Bool :=
  match unsigned cs with
  | ['0'] => true
  | '0' :: 'b' :: ds => isRun (fun c => c == '0' || c == '1') ds
  | '0' :: 'x' :: ds => isRun (fun c => c.isDigit || ('a' ≤ c && c ≤ 'f') || ('A' ≤ c && c ≤ 'F')) ds
  | '0' :: ds => isRun (fun c => '0' ≤ c && c ≤ '7') ds
  | ds => isDecimal ds || isSexagesimal ds

/-- A power of ten, which must have a sign; there may be none. -/
def isPower : List Char → Bool
  | [] => true
  | e :: sign :: ds =>
    (e == 'e' || e == 'E') && (sign == '+' || sign == '-') && !ds.isEmpty && ds.all Char.isDigit
  | _ => false

/-- The words for an infinity and for "not a number", behind the point. -/
def floatWords (word : String) : List String :=
  ["." ++ word, "." ++ word.capitalize, "." ++ word.toUpper]

/-- Is it a number with a point?  Without digits in front of the point there is no sign. -/
def isFloat (cs : List Char) : Bool :=
  let body := unsigned cs
  let whole := body.takeWhile (· != '.')
  match body.dropWhile (· != '.') with
  | [] => false
  | _ :: fraction =>
    let power := fraction.dropWhile fun c => c.isDigit || c == '_'
    if whole.isEmpty then
      (fraction.head?.any Char.isDigit && isPower power && body.length = cs.length) ||
        (floatWords "inf").contains (String.ofList body) ||
        [".nan", ".NaN", ".NAN"].contains (String.ofList cs)
    else (isDecimal whole && isPower power) || (isSexagesimal whole && power.isEmpty)

/-- Is it a moment?  A day alone must have two digits for the month and for the day. -/
def isMoment (cs : List Char) : Bool :=
  (Stamp.ofChars? cs).any fun s => s.isPadded || s.clock.isSome

/-- The text without the line break at its end. -/
def withoutBreak (cs : List Char) : List Char :=
  if cs.getLast? == some '\n' then cs.dropLast else cs

/-- The tag of a plain scalar. -/
def tag (text : String) : Tag :=
  let cs := withoutBreak text.toList
  if text == "" || (!cs.isEmpty && isNull cs) then .null
  else if isTruth cs then .truth
  else if isFloat cs then .float
  else if isInteger cs then .integer
  else if cs == ['<', '<'] then .merge
  else if isMoment cs then .moment
  else if cs == ['='] then .default
  else if [['!'], ['&'], ['*']].contains cs then .unknown (Tag.stem ++ "yaml")
  else .text

example : tag "08" = .text ∧ tag "0o17" = .text ∧ tag "1.5e3" = .text ∧ tag "1.0e+3" = .float ∧
    tag "190:20:30" = .integer ∧ tag "Yes" = .truth ∧ tag "n" = .text := by decide +kernel

end Implicit
end Yaml
end HttpTap
