import FeedReader.Listing.Queue

/-!
# The state of a listing

Rows in their order on the screen, beside the set of keys that have a row.
`insert` refuses a key that has one; callers `update` that row instead.
-/

namespace FeedReader

structure Row (α ρ : Type) where
  item : α
  node : ρ
  deriving DecidableEq, Repr

structure Listing (α κ ρ : Type) where
  rows : List (Row α ρ) := []
  keys : List κ := []
  cursor : Option String := none
  noMore : Bool := false
  loading : Bool := false
  queue : Queue α := {}
  deriving DecidableEq, Repr

namespace Listing

variable {α κ ρ : Type} [Keyed α κ] [DecidableEq κ]

def size (l : Listing α κ ρ) : Nat := l.rows.length

def isEmpty (l : Listing α κ ρ) : Bool := l.rows.isEmpty

def contains (l : Listing α κ ρ) (k : κ) : Bool := decide (k ∈ l.keys)

def position (l : Listing α κ ρ) (k : κ) : Option Nat :=
  if k ∈ l.keys then l.rows.findIdx? fun row => key row.item = k else none

/-- Insert at `index`, or at the end if `index` is past it; refuse a key that is present. -/
def insert (l : Listing α κ ρ) (index : Nat) (row : Row α ρ) : Bool × Listing α κ ρ :=
  if key row.item ∈ l.keys then
    (false, l)
  else
    (true, { l with
      rows := l.rows.insertIdx (min index l.rows.length) row
      keys := key row.item :: l.keys })

def update (l : Listing α κ ρ) (index : Nat) (row : Row α ρ) : Listing α κ ρ :=
  { l with rows := l.rows.set index row }

def remove (l : Listing α κ ρ) (k : κ) : Option (Nat × Row α ρ) × Listing α κ ρ :=
  match l.position k with
  | none => (none, l)
  | some index =>
      match l.rows[index]? with
      | none => (none, l)
      | some row =>
          (some (index, row), { l with rows := l.rows.eraseIdx index, keys := l.keys.erase k })

/-- There is no way back: a listing that ran out stays so. -/
def markNoMore (l : Listing α κ ρ) : Listing α κ ρ :=
  { l with noMore := true }

def clear (l : Listing α κ ρ) : Listing α κ ρ :=
  { l with rows := [], keys := [], queue := {}, cursor := none, loading := false }

end Listing

end FeedReader
