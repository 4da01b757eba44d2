/-!
# Pages of a keyed listing

A listing grows towards older items one page at a time.  The layout says on
which side of the screen the older items are, and so which cursor of a page
leads to them.
-/

namespace FeedReader

/-- An item with a stable identity.  Two items of one key are two snapshots of one thing. -/
class Keyed (α : Type) (κ : outParam Type) where
  key : α → κ

export Keyed (key)

/-- Newest item on top (`forward`) or oldest item on top (`reverse`). -/
inductive Layout where
  | forward
  | reverse
  deriving DecidableEq, Repr, Inhabited

/-- A missing cursor means that nothing further exists in that direction. -/
structure Page (α : Type) where
  items : List α := []
  startCursor : Option String := none
  endCursor : Option String := none
  deriving DecidableEq, Repr

namespace Page

variable {α β : Type}

def olderCursor (p : Page α) : Layout → Option String
  | .forward => p.endCursor
  | .reverse => p.startCursor

def map (f : α → β) (p : Page α) : Page β :=
  ⟨p.items.map f, p.startCursor, p.endCursor⟩

end Page

/-- What a feed starts from: a first page, or a bare list that knows no cursors. -/
inductive Seed (α : Type) where
  | page (first : Page α)
  | bare (items : List α)
  deriving DecidableEq, Repr

namespace Seed

variable {α : Type}

def items : Seed α → List α
  | .page first => first.items
  | .bare items => items

def olderCursor (layout : Layout) : Seed α → Option String
  | .page first => first.olderCursor layout
  | .bare _ => none

def isBare : Seed α → Bool
  | .page _ => false
  | .bare _ => true

end Seed

end FeedReader
