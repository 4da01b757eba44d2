import FeedReader.Time.Calendar

/-!
# Age labels

"now", "5m", "3h", "2d", then the date: "Mar 14", with the year once it is not
the current one.
-/

namespace FeedReader.Time

def monthName (month : Nat) : String :=
  ["Jan", "Feb", "Mar", "Apr", "May", "Jun", "Jul", "Aug", "Sep", "Oct", "Nov", "Dec"].getD
    (month - 1) ""

def padZeros (count : Nat) (digits : String) : String :=
  String.ofList (List.replicate (count - digits.length) '0') ++ digits

/-- Four digits; a year outside 0 to 9999 shows its sign. -/
def yearText (year : Int) : String :=
  let digits := padZeros 4 (toString year.natAbs)
  if year < 0 then "-" ++ digits
  else if 9999 < year then "+" ++ digits
  else digits

/-- A time slightly ahead of `now` is a skewed clock, and counts as now. -/
def ageLabel (time now : Instant) : String :=
  let seconds := now.secondsSince time
  let minutes := seconds.tdiv 60
  let hours := seconds.tdiv 3600
  let days := seconds.tdiv 86400
  if minutes < 1 then "now"
  else if minutes < 60 then toString minutes ++ "m"
  else if hours < 24 then toString hours ++ "h"
  else if days < 7 then toString days ++ "d"
  else
    let date := time.date
    let label := monthName date.month ++ " " ++ toString date.day
    if date.year = now.date.year then label else label ++ " " ++ yearText date.year

end FeedReader.Time
