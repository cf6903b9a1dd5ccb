import HttpTap.Value.Moment
import HttpTap.Yaml.Cursor

/-!
# Dates and times in a document

A day is a year of four digits, a month and a day.  A time of day may follow, with a fraction
and with the offset of its clock.  Reading only looks at the digits; whether there is such a day
is asked later, when the value is made.
-/

namespace HttpTap
namespace Yaml

/-- A time of day. -/
structure Clock where
  hour : Nat
  minute : Nat
  second : Nat
  micro : Nat
  /-- The offset in seconds. -/
  offset : Option Int
  deriving DecidableEq

/-- A day and perhaps a time. -/
structure Stamp where
  year : Nat
  month : Nat
  day : Nat
  /-- Do month and day have two digits each? -/
  isPadded : Bool
  clock : Option Clock
  deriving DecidableEq

namespace Stamp

/-- The number with the given decimal digits. -/
def number (ds : List Char) : Nat := ds.foldl (fun n d => 10 * n + (d.toNat - '0'.toNat)) 0

/-- As many leading digits as there are, up to `most` and no fewer than `least`. -/
def digits? (least most : Nat) (cs : List Char) : Option (List Char × List Char) :=
  let run := (cs.take most).takeWhile Char.isDigit
  if run.length < least then none else some (run, cs.drop run.length)

/-- The text behind a character that must come first. -/
def behind? (x : Char) : List Char → Option (List Char)
  | [] => none
  | c :: cs => if c == x then some cs else none

/-- The text behind what separates a day from a time: a letter or blanks. -/
def behindDay? (cs : List Char) : Option (List Char) :=
  match cs with
  | 't' :: rest | 'T' :: rest => some rest
  | cs =>
    let rest := cs.dropWhile isSpace
    if rest.length = cs.length then none else some rest

/-- The first six digits of a fraction as millionths. -/
def millionths (ds : List Char) : Nat :=
  let ds := ds.take 6
  number (ds ++ List.replicate (6 - ds.length) '0')

/-- An offset with its sign. -/
def signedOffset? (negative : Bool) (cs : List Char) : Option Int := do
  let (hours, cs) ← digits? 1 2 cs
  let minutes ← match cs with
    | [] => some 0
    | cs => do
      let (minutes, rest) ← digits? 2 2 (← behind? ':' cs)
      if rest.isEmpty then some (number minutes) else none
  let seconds : Int := (3600 * number hours + 60 * minutes : Nat)
  return if negative then -seconds else seconds

/-- The offset at the end; there may be none. -/
def offset? (cs : List Char) : Option (Option Int) :=
  if cs.isEmpty then some none
  else
    match cs.dropWhile isSpace with
    | ['Z'] => some (some 0)
    | '+' :: cs => (signedOffset? false cs).map some
    | '-' :: cs => (signedOffset? true cs).map some
    | _ => none

/-- A time of day. -/
def clock? (cs : List Char) : Option Clock := do
  let (hour, cs) ← digits? 1 2 cs
  let (minute, cs) ← digits? 2 2 (← behind? ':' cs)
  let (second, cs) ← digits? 2 2 (← behind? ':' cs)
  let (fraction, cs) := match cs with
    | '.' :: cs => (cs.takeWhile Char.isDigit, cs.dropWhile Char.isDigit)
    | cs => ([], cs)
  return ⟨number hour, number minute, number second, millionths fraction, ← offset? cs⟩

/-- Read a day and perhaps a time. -/
def ofChars? (cs : List Char) : Option Stamp := do
  let (year, cs) ← digits? 4 4 cs
  let (month, cs) ← digits? 1 2 (← behind? '-' cs)
  let (day, cs) ← digits? 1 2 (← behind? '-' cs)
  let clock ← match cs with
    | [] => some none
    | cs => (clock? (← behindDay? cs)).map some
  return ⟨number year, number month, number day, month.length = 2 ∧ day.length = 2, clock⟩

/-- Does the moment exist?  Days and times have their usual ranges, and an offset is less than
a day. -/
def moment? (s : Stamp) : Option Moment :=
  if Moment.isDay s.year s.month s.day then
    match s.clock with
    | none => some (.day s.year s.month s.day)
    | some c =>
      if c.hour < 24 ∧ c.minute < 60 ∧ c.second < 60 ∧ c.offset.all (·.natAbs < 86400) then
        some (.time s.year s.month s.day c.hour c.minute c.second c.micro c.offset)
      else none
  else none

example : (ofChars? "2001-12-14t21:59:43.1-05:00".toList).bind moment? =
    some (.time 2001 12 14 21 59 43 100000 (some (-18000))) := by decide +kernel

end Stamp
end Yaml
end HttpTap
