/-!
# Dates and times

A settings file may hold a date where a number was meant, and the message about it shows the
date.  A moment is a day, alone or with a time of day and an offset from universal time.  It
has two written forms: the plain one, digits with separators, and the descriptive one, which
names its parts.
-/

namespace HttpTap

/-- A day, and perhaps a time of day with the offset of its clock in seconds. -/
inductive Moment where
  | day (year month day : Nat)
  | time (year month day hour minute second micro : Nat) (offset : Option Int)
  deriving DecidableEq

namespace Moment

/-! ## The calendar -/

/-- Is it a leap year? -/
def isLeap (year : Nat) : Bool := year % 4 == 0 && (year % 100 != 0 || year % 400 == 0)

/-- The number of days in a month. -/
def daysIn (year month : Nat) : Nat :=
  if month == 2 then (if isLeap year then 29 else 28)
  else if [4, 6, 9, 11].contains month then 30
  else 31

/-- Is there such a day?  Years go from 1 to 9999. -/
def isDay (year month day : Nat) : Bool :=
  1 ≤ year && year ≤ 9999 && 1 ≤ month && month ≤ 12 && 1 ≤ day && day ≤ daysIn year month

/-- The number of days from the first of January of the year 1. -/
def dayNumber (year month day : Nat) : Nat :=
  let y := year - 1
  365 * y + y / 4 - y / 100 + y / 400 +
    (List.range (month - 1)).foldl (fun n m => n + daysIn year (m + 1)) 0 + (day - 1)

/-- The instant of a moment with an offset, in millionths of a second of universal time. -/
def instant? : Moment → Option Int
  | time y m d hour minute second micro (some offset) =>
    let seconds : Int := (((dayNumber y m d * 24 + hour) * 60 + minute) * 60 + second : Nat)
    some ((seconds - offset) * 1000000 + micro)
  | _ => none

/-- Are two moments the same?  With offsets they are when they are the same instant. -/
def sameAs (s t : Moment) : Bool :=
  match s.instant?, t.instant? with
  | some i, some j => i == j
  | _, _ => s == t

/-! ## Written forms -/

/-- A number padded with zeros on the left. -/
def padded (width n : Nat) : String :=
  let digits := Nat.toDigits 10 n
  String.ofList (List.replicate (width - digits.length) '0' ++ digits)

/-- The plain form of a day. -/
def dayText (year month day : Nat) : String :=
  padded 4 year ++ "-" ++ padded 2 month ++ "-" ++ padded 2 day

/-- The plain form of an offset. -/
def offsetText (seconds : Int) : String :=
  let n := seconds.natAbs
  (if seconds < 0 then "-" else "+") ++ padded 2 (n / 3600) ++ ":" ++ padded 2 (n / 60 % 60) ++
    (if n % 60 = 0 then "" else ":" ++ padded 2 (n % 60))

/-- The plain form. -/
def text : Moment → String
  | day y m d => dayText y m d
  | time y m d hour minute second micro offset =>
    dayText y m d ++ " " ++ padded 2 hour ++ ":" ++ padded 2 minute ++ ":" ++ padded 2 second ++
      (if micro = 0 then "" else "." ++ padded 6 micro) ++
      (match offset with | none => "" | some s => offsetText s)

/-- The descriptive form of a span of seconds: whole days, rounded down, and the seconds left. -/
def spanLiteral (seconds : Int) : String :=
  let days := Int.fdiv seconds 86400
  let rest := Int.fmod seconds 86400
  let parts := (if days = 0 then [] else ["days=" ++ toString days]) ++
    (if rest = 0 then [] else ["seconds=" ++ toString rest])
  "datetime.timedelta(" ++ (if parts.isEmpty then "0" else ", ".intercalate parts) ++ ")"

/-- The descriptive form of an offset. -/
def offsetLiteral (seconds : Int) : String :=
  if seconds = 0 then "datetime.timezone.utc"
  else "datetime.timezone(" ++ spanLiteral seconds ++ ")"

/-- The descriptive form.  Seconds are left out when they and the fraction are zero. -/
def literal : Moment → String
  | day y m d =>
    "datetime.date(" ++ ", ".intercalate ([y, m, d].map toString) ++ ")"
  | time y m d hour minute second micro offset =>
    let fine := if micro ≠ 0 then [second, micro] else if second ≠ 0 then [second] else []
    let parts := ([y, m, d, hour, minute] ++ fine).map toString
    let zone := match offset with
      | none => []
      | some s => ["tzinfo=" ++ offsetLiteral s]
    "datetime.datetime(" ++ ", ".intercalate (parts ++ zone) ++ ")"

end Moment
end HttpTap
