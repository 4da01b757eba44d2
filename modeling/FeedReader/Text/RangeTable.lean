/-!
# Tables of code points

A character property is kept as sorted, disjoint, inclusive ranges, and looked
up by halving.  A property with several values keeps one with each range.
-/

namespace FeedReader.Text

/-! ## Looking up -/

/-- Look between the entries `lo` and `hi`, at most `fuel` halvings deep. -/
def searchRange {α : Type} (bounds : α → Nat × Nat) (table : Array α) (point : Nat) :
    (fuel lo hi : Nat) → Option α
  | 0, _, _ => none
  | fuel + 1, lo, hi =>
      if hi ≤ lo then
        none
      else
        let mid := (lo + hi) / 2
        match table[mid]? with
        | none => none
        | some entry =>
            if point < (bounds entry).1 then searchRange bounds table point fuel lo mid
            else if (bounds entry).2 < point then searchRange bounds table point fuel (mid + 1) hi
            else some entry

/-- Each halving at least halves what is left, so `size` of them are more than enough. -/
def findRange {α : Type} (bounds : α → Nat × Nat) (table : Array α) (c : Char) : Option α :=
  searchRange bounds table c.toNat table.size 0 table.size

/-! ## Tables -/

abbrev RangeTable := Array (Nat × Nat)

def RangeTable.has (table : RangeTable) (c : Char) : Bool := (findRange id table c).isSome

/-- First and last code point of each range, and its value. -/
abbrev RangeMap (α : Type) := Array (Nat × Nat × α)

def RangeMap.value? {α : Type} (table : RangeMap α) (c : Char) : Option α :=
  (findRange (fun (first, last, _) => (first, last)) table c).map fun (_, _, value) => value

def within (lo hi : Nat) (c : Char) : Bool :=
  lo ≤ c.toNat && c.toNat ≤ hi

end FeedReader.Text
