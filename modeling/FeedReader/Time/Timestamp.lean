import FeedReader.Text.CharClass
import FeedReader.Text.Decimal
import FeedReader.Time.Calendar

/-!
# Reading timestamps

Internet timestamps, read leniently: blanks may stand before and after each
part, a space may separate date and time, fractions may have any number of
digits, and the offset from UTC may be written with or without a colon.  Each
part is taken from the front of the text and gives the rest.
-/

namespace FeedReader.Time

open FeedReader.Text (isBlank isDigit digit? numeral?)

def skipBlanks (s : List Char) : List Char := s.dropWhile isBlank

def digits (limit : Nat) (s : List Char) : Option (Nat × List Char) := do
  let run := (s.take limit).takeWhile isDigit
  return (← numeral? run, s.drop run.length)

def smallNumber (lo hi : Nat) (s : List Char) : Option (Nat × List Char) := do
  let (n, s) ← digits 2 (skipBlanks s)
  if lo ≤ n ∧ n ≤ hi then return (n, s) else none

/-- A year with a sign may have any number of digits, one without has at most four. -/
def yearNumber (s : List Char) : Option (Int × List Char) :=
  match skipBlanks s with
  | '-' :: s => (digits s.length s).map fun (n, s) => (-(n : Int), s)
  | '+' :: s => (digits s.length s).map fun (n, s) => ((n : Int), s)
  | s => (digits 4 s).map fun (n, s) => ((n : Int), s)

def mark (c : Char) (s : List Char) : Option (List Char) :=
  match skipBlanks s with
  | d :: s => if d = c then some s else none
  | [] => none

def firstYear : Int := -262143
def lastYear : Int := 262142

def datePart (s : List Char) : Option (Date × List Char) := do
  let (year, s) ← yearNumber s
  let (month, s) ← smallNumber 1 12 (← mark '-' s)
  let (day, s) ← smallNumber 1 31 (← mark '-' s)
  if firstYear ≤ year ∧ year ≤ lastYear ∧ day ≤ daysInMonth year month then
    return (⟨year, month, day⟩, s)
  else none

def fractionPart (s : List Char) : Option (Nat × List Char) :=
  match s with
  | '.' :: s => do
      let (n, rest) ← digits 9 s
      return (n * Nat.pow 10 (9 - (s.length - rest.length)), rest.dropWhile isDigit)
  | s => some (0, s)

/-- Second of the day and nanoseconds.  Second 60 is a leap second. -/
def timePart (s : List Char) : Option ((Nat × Nat) × List Char) := do
  let (hour, s) ← smallNumber 0 23 s
  let (minute, s) ← smallNumber 0 59 (← mark ':' s)
  let (second, s) ← smallNumber 0 60 (← mark ':' s)
  let (nanos, s) ← fractionPart s
  let start := hour * 3600 + minute * 60
  return (if second = 60 then (start + 59, 1000000000 + nanos) else (start + second, nanos), s)

def twoDigits (s : List Char) : Option (Nat × List Char) :=
  match s with
  | a :: b :: s => do return ((← digit? a) * 10 + (← digit? b), s)
  | _ => none

/-- Seconds east of UTC. -/
def offsetPart (s : List Char) : Option (Int × List Char) :=
  let signed := fun (sign : Int) (s : List Char) => do
    let (hours, s) ← twoDigits s
    let (minutes, s) ← twoDigits (s.dropWhile fun c => c = ':' || isBlank c)
    if hours < 24 ∧ minutes < 60 then return (sign * (hours * 3600 + minutes * 60), s) else none
  match s with
  | 'Z' :: s | 'z' :: s => some (0, s)
  | '+' :: s => signed 1 s
  | '-' :: s | '−' :: s => signed (-1) s
  | u :: t :: c :: s =>
      if (u = 'U' || u = 'u') && (t = 'T' || t = 't') && (c = 'C' || c = 'c') then some (0, s)
      else none
  | _ => none

def separator (s : List Char) : Option (List Char) :=
  match s with
  | 'T' :: s | 't' :: s | ' ' :: s => some s
  | _ => none

def timestamp? (text : String) : Option Instant := do
  let (date, s) ← datePart text.toList
  let ((second, nanos), s) ← timePart (← separator s)
  let (offset, s) ← offsetPart (skipBlanks s)
  if !(skipBlanks s).isEmpty then none
  let instant : Instant := ⟨date.toDays * 86400 + second - offset, nanos⟩
  if firstYear ≤ instant.date.year ∧ instant.date.year ≤ lastYear then return instant else none

end FeedReader.Time
