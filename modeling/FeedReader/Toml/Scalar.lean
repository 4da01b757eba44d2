import FeedReader.Text.Decimal
import FeedReader.Time.Calendar
import FeedReader.Toml.Value

/-!
# Texts, numbers and dates of a TOML document

Each part is taken from the front of the input and gives the rest.  Lines end
with a line feed; a carriage return is nowhere part of a document.
-/

namespace FeedReader.Toml

open FeedReader.Text (isDigit numeral?)

abbrev Reader (α : Type) := List Char → Option (α × List Char)

/-! ## Blanks and comments -/

def isSpace (c : Char) : Bool := c = ' ' || c = '\t'

def skipSpace (s : List Char) : List Char := s.dropWhile isSpace

def isPlain (c : Char) : Bool := c = '\t' || (' ' ≤ c && c ≠ '\x7f')

def endLine (s : List Char) : Option (List Char) :=
  match skipSpace s with
  | [] => some []
  | '\n' :: s => some s
  | '#' :: s =>
      match s.dropWhile isPlain with
      | [] => some []
      | '\n' :: s => some s
      | _ => none
  | _ => none

/-! ## Texts -/

def hexDigit? (c : Char) : Option Nat :=
  if '0' ≤ c && c ≤ '9' then some (c.toNat - 0x30)
  else if 'a' ≤ c && c ≤ 'f' then some (c.toNat - 0x61 + 10)
  else if 'A' ≤ c && c ≤ 'F' then some (c.toNat - 0x41 + 10)
  else none

def pointChar? (width : Nat) (s : List Char) : Option Char := do
  if (s.take width).length < width then none
  let n ← (s.take width).foldlM (fun n c => (hexDigit? c).map (n * 16 + ·)) 0
  if h : n.isValidChar then some (Char.ofNatAux n h) else none

def escapeWidth (c : Char) : Nat := if c = 'u' then 4 else if c = 'U' then 8 else 0

def escaped? (c : Char) (s : List Char) : Option Char :=
  match c with
  | 'b' => some '\x08'
  | 't' => some '\t'
  | 'n' => some '\n'
  | 'f' => some '\x0c'
  | 'r' => some '\r'
  | '"' => some '"'
  | '\\' => some '\\'
  | 'u' => pointChar? 4 s
  | 'U' => pointChar? 8 s
  | _ => none

def textOf (read : List Char) : String := String.ofList read.reverse

/-- A text with escapes, its opening quote read; `read` holds what came so far, last one first. -/
def basicTail (read : List Char) : Reader String
  | [] => none
  | c :: s =>
      if c = '"' then some (textOf read, s)
      else if c = '\\' then
        match s with
        | [] => none
        | e :: s => do basicTail ((← escaped? e s) :: read) (s.drop (escapeWidth e))
      else if isPlain c then basicTail (c :: read) s
      else none
termination_by s => s.length
decreasing_by all_goals (simp; try omega)

def literalTail (s : List Char) : Option (String × List Char) :=
  match s.dropWhile fun c => isPlain c && c ≠ '\'' with
  | '\'' :: rest => some (String.ofList (s.takeWhile fun c => isPlain c && c ≠ '\''), rest)
  | _ => none

/--
A run of quotes inside a text over several lines: fewer than three are part of
the text, else three of them close it, with up to two of the text before.
-/
def closingRun (run : Nat) : Option Nat := if run < 3 then none else some (min (run - 3) 2)

/-- Where the text goes on after a backslash at the end of a line. -/
def continuation? (s : List Char) : Option (List Char) :=
  match skipSpace s with
  | '\n' :: rest => some (rest.dropWhile fun c => isSpace c || c = '\n')
  | _ => none

theorem continuation?_length_le {s rest : List Char} (h : continuation? s = some rest) :
    rest.length ≤ s.length := by
  have hs : (skipSpace s).length ≤ s.length := (List.dropWhile_sublist _).length_le
  unfold continuation? at h
  split at h
  · next tail heq =>
      obtain rfl := Option.some.inj h
      have hr : (tail.dropWhile fun c => isSpace c || c = '\n').length ≤ tail.length :=
        (List.dropWhile_sublist _).length_le
      rw [heq] at hs
      simp at hs
      omega
  · simp at h

def longTail (mark : Char) (read : List Char) (s : List Char) : Option (String × List Char) :=
  match s with
  | [] => none
  | c :: s =>
      if c = mark then
        let run := (s.takeWhile (· = mark)).length + 1
        match closingRun run with
        | some extra => some (textOf (List.replicate extra mark ++ read), s.drop (extra + 2))
        | none => longTail mark (c :: read) s
      else if c = '\\' && mark = '"' then
        match _h : continuation? s with
        | some rest => longTail mark read rest
        | none =>
            match s with
            | [] => none
            | e :: s => do longTail mark ((← escaped? e s) :: read) (s.drop (escapeWidth e))
      else if isPlain c || c = '\n' then longTail mark (c :: read) s
      else none
termination_by s.length
decreasing_by
  · simp
  · have := continuation?_length_le ‹continuation? _ = some _›
    simp
    omega
  · simp
    omega
  · simp

/-- A line feed right after the opening marks is not part of a text over several lines. -/
def dropBreak : List Char → List Char
  | '\n' :: s => s
  | s => s

/-! ## Numbers -/

/-- Digits, which single underscores may separate; the run starts and ends with a digit. -/
def digitRun (isDigit : Char → Bool) : Reader (List Char)
  | [] => none
  | c :: s =>
      if isDigit c then
        match s with
        | '_' :: s => (digitRun isDigit s).map fun r => (c :: r.1, r.2)
        | d :: s =>
            if isDigit d then (digitRun isDigit (d :: s)).map fun r => (c :: r.1, r.2)
            else some ([c], d :: s)
        | [] => some ([c], [])
      else none

def wholeRun : Reader (List Char)
  | '0' :: s => some (['0'], s)
  | s => digitRun isDigit s

def inRange (n : Int) : Option Value :=
  if -Int.pow 2 63 ≤ n ∧ n < Int.pow 2 63 then some (.integer n) else none

def radixDigit? (radix : Nat) (c : Char) : Option Nat := (hexDigit? c).filter (· < radix)

def radixTail (radix : Nat) (s : List Char) : Option (Value × List Char) := do
  let (run, s) ← digitRun (fun c => (radixDigit? radix c).isSome) s
  let n ← run.foldlM (fun n c => (radixDigit? radix c).map (n * radix + ·)) 0
  return (← inRange n, s)

def overflows (mantissa : Nat) (exponent : Int) : Bool :=
  let size : Int := (Nat.toDigits 10 mantissa).length + exponent
  let limit := Nat.pow 2 1024 - Nat.pow 2 970
  mantissa ≠ 0 &&
    (310 < size ||
      (308 < size && limit * Nat.pow 10 (-exponent).toNat ≤ mantissa * Nat.pow 10 exponent.toNat))

def fractionTail : Reader (List Char)
  | '.' :: s => digitRun isDigit s
  | s => some ([], s)

def exponentTail : Reader Int
  | 'e' :: s | 'E' :: s =>
      let (sign, s) := match s with
        | '+' :: s => ((1 : Int), s)
        | '-' :: s => (-1, s)
        | s => (1, s)
      do
        let (run, s) ← digitRun isDigit s
        return (sign * (← numeral? run), s)
  | s => some (0, s)

def decimalTail (negative : Bool) (s : List Char) : Option (Value × List Char) := do
  let (whole, s) ← wholeRun s
  let n ← numeral? whole
  match s with
  | '.' :: _ | 'e' :: _ | 'E' :: _ =>
      let (fraction, s) ← fractionTail s
      let (exponent, s) ← exponentTail s
      let mantissa ← numeral? (whole ++ fraction)
      if !negative && overflows mantissa (exponent - fraction.length) then none
      else return (.float, s)
  | s => return (← inRange (if negative then -(n : Int) else n), s)

def unsignedTail (negative : Bool) : Reader Value
  | 'i' :: 'n' :: 'f' :: s | 'n' :: 'a' :: 'n' :: s => some (.float, s)
  | s => decimalTail negative s

def number : Reader Value
  | '0' :: 'x' :: s => radixTail 16 s
  | '0' :: 'o' :: s => radixTail 8 s
  | '0' :: 'b' :: s => radixTail 2 s
  | '+' :: s => unsignedTail false s
  | '-' :: s => unsignedTail true s
  | s => unsignedTail false s

/-! ## Dates and times -/

def fixed (width : Nat) (s : List Char) : Option (Nat × List Char) :=
  let digits := s.take width
  if digits.length < width then none else (numeral? digits).map fun n => (n, s.drop width)

def fixedIn (width lo hi : Nat) (s : List Char) : Option (Nat × List Char) :=
  (fixed width s).filter fun r => lo ≤ r.1 && r.1 ≤ hi

def expect (c : Char) : List Char → Option (List Char)
  | d :: s => if d = c then some s else none
  | [] => none

def padded (width n : Nat) : String :=
  let digits := toString n
  String.ofList (List.replicate (width - digits.length) '0') ++ digits

def date (s : List Char) : Option (String × List Char) := do
  let (year, s) ← fixed 4 s
  let (month, s) ← fixedIn 2 1 12 (← expect '-' s)
  let (day, s) ← fixedIn 2 1 (Time.daysInMonth year month) (← expect '-' s)
  return (padded 4 year ++ "-" ++ padded 2 month ++ "-" ++ padded 2 day, s)

/-- The fraction of a second; digits after the ninth are dropped, and so are zeros at the end. -/
def fractionText (digits : List Char) : String :=
  let kept := ((digits.take 9).reverse.dropWhile (· = '0')).reverse
  if kept.isEmpty then "" else String.ofList ('.' :: kept)

def secondFraction : Reader String
  | '.' :: s =>
      let digits := s.takeWhile isDigit
      if digits.isEmpty then none else some (fractionText digits, s.dropWhile isDigit)
  | s => some ("", s)

def timeOfDay (lastHour : Nat) (s : List Char) : Option (String × List Char) := do
  let (hour, s) ← fixedIn 2 0 lastHour s
  let (minute, s) ← fixedIn 2 0 59 (← expect ':' s)
  let (second, s) ← fixedIn 2 0 60 (← expect ':' s)
  let (fraction, s) ← secondFraction s
  return (padded 2 hour ++ ":" ++ padded 2 minute ++ ":" ++ padded 2 second ++ fraction, s)

def offset (s : List Char) : Option (String × List Char) :=
  let signed := fun (sign : String) (s : List Char) => do
    let (hour, s) ← fixedIn 2 0 23 s
    let (minute, s) ← fixedIn 2 0 59 (← expect ':' s)
    let sign := if hour = 0 ∧ minute = 0 then "+" else sign
    return (sign ++ padded 2 hour ++ ":" ++ padded 2 minute, s)
  match s with
  | 'Z' :: s | 'z' :: s => some ("Z", s)
  | '+' :: s => signed "+" s
  | '-' :: s => signed "-" s
  | s => some ("", s)

def timeAfterDate (s : List Char) : Option (String × List Char) :=
  let here := fun (rest : List Char) =>
    if (fixedIn 2 0 23 rest).any fun r => r.2.head? = some ':' then do
      let (time, rest) ← timeOfDay 23 rest
      let (zone, rest) ← offset rest
      return ("T" ++ time ++ zone, rest)
    else some ("", s)
  match s with
  | 'T' :: rest | 't' :: rest | ' ' :: rest => here rest
  | s => some ("", s)

def isDateStart (s : List Char) : Bool := (fixed 4 s).any fun r => r.2.head? = some '-'
def isTimeStart (s : List Char) : Bool := (fixed 2 s).any fun r => r.2.head? = some ':'

def numberOrMoment (s : List Char) : Option (Value × List Char) :=
  if isDateStart s then do
    let (day, s) ← date s
    let (time, s) ← timeAfterDate s
    return (.moment (day ++ time), s)
  else if isTimeStart s then (timeOfDay 23 s).map fun r => (.moment r.1, r.2)
  else number s

/-! ## Dates and times as texts -/

def isOffsetText : List Char → Bool
  | [] | ['Z'] | ['z'] => true
  | sign :: s =>
      (sign = '+' || sign = '-') &&
        ((fixed 2 s).bind fun (hour, s) => do
          let (minute, s) ← fixed 2 (← expect ':' s)
          return s.isEmpty && hour * 60 + minute ≤ 24 * 60).getD false

def isMomentText (s : List Char) : Bool :=
  if isTimeStart s then (timeOfDay 24 s).any fun r => r.2.isEmpty
  else
    match date s with
    | none => false
    | some (_, []) => true
    | some (_, mark :: s) =>
        (mark = 'T' || mark = 't' || mark = ' ') &&
          (timeOfDay 24 s).any fun r => isOffsetText r.2

end FeedReader.Toml
