/-!
# Dates of the common calendar

Days are counted from 1970-01-01.  Years are astronomical: year 0 is a leap
year and negative years come before it.
-/

namespace FeedReader.Time

structure Date where
  year : Int
  month : Nat
  day : Nat
  deriving DecidableEq, Repr

def isLeapYear (year : Int) : Bool :=
  year % 4 = 0 && (year % 100 ≠ 0 || year % 400 = 0)

def daysInMonth (year : Int) (month : Nat) : Nat :=
  if month = 2 then (if isLeapYear year then 29 else 28)
  else if month = 4 || month = 6 || month = 9 || month = 11 then 30
  else 31

namespace Date

/-- Months count from March, so that the leap day ends the year. -/
def toDays (d : Date) : Int :=
  let year := if d.month ≤ 2 then d.year - 1 else d.year
  let month : Int := if d.month ≤ 2 then d.month + 9 else d.month - 3
  let era := year / 400
  let yearOfEra := year % 400
  let dayOfYear := (153 * month + 2) / 5 + d.day - 1
  era * 146097 + (yearOfEra * 365 + yearOfEra / 4 - yearOfEra / 100 + dayOfYear) - 719468

def ofDays (days : Int) : Date :=
  let shifted := days + 719468
  let era := shifted / 146097
  let dayOfEra := shifted % 146097
  let yearOfEra := (dayOfEra - dayOfEra / 1460 + dayOfEra / 36524 - dayOfEra / 146096) / 365
  let dayOfYear := dayOfEra - (365 * yearOfEra + yearOfEra / 4 - yearOfEra / 100)
  let month := (5 * dayOfYear + 2) / 153
  let day := dayOfYear - (153 * month + 2) / 5 + 1
  let month := if month < 10 then month + 3 else month - 9
  let year := yearOfEra + era * 400
  ⟨if month ≤ 2 then year + 1 else year, month.toNat, day.toNat⟩

end Date

/--
A point in time: seconds since 1970-01-01T00:00:00Z and nanoseconds.  Within a
leap second the seconds stand still and the nanoseconds go on past a billion.
-/
structure Instant where
  seconds : Int
  nanos : Nat := 0
  deriving DecidableEq, Repr

namespace Instant

def date (t : Instant) : Date := Date.ofDays (t.seconds / 86400)

/--
Whole seconds from `u` to `t`, rounded towards zero.  A leap second that lies
between the two times of day counts.
-/
def secondsSince (t u : Instant) : Int :=
  let days := t.seconds / 86400 - u.seconds / 86400
  let later := t.seconds % 86400
  let earlier := u.seconds % 86400
  let leap : Int :=
    if earlier < later && 1000000000 ≤ u.nanos then 1
    else if later < earlier && 1000000000 ≤ t.nanos then -1
    else 0
  let nanos : Int := t.nanos - u.nanos
  ((days * 86400 + (later - earlier) + leap) * 1000000000 + nanos).tdiv 1000000000

end Instant

end FeedReader.Time
