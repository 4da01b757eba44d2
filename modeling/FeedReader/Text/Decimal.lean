/-!
# Decimal numerals
-/

namespace FeedReader.Text

def digit? (c : Char) : Option Nat :=
  if '0' ≤ c && c ≤ '9' then some (c.toNat - '0'.toNat) else none

def isDigit (c : Char) : Bool := (digit? c).isSome

def numeral? (s : List Char) : Option Nat :=
  if s.isEmpty then none
  else s.foldlM (fun n c => (digit? c).map (n * 10 + ·)) 0

/-- A numeral of 64 bits, which may have a plus sign. -/
def word? (s : List Char) : Option Nat := do
  let n ← match s with
    | '+' :: digits => numeral? digits
    | digits => numeral? digits
  if n < UInt64.size then some n else none

end FeedReader.Text
