import FeedReader.Listing.Page

/-!
# Queue of live arrivals

Arrivals wait here, most recent first, until the reader asks for them.  A key
that is already waiting keeps its place and takes the newer snapshot.
-/

namespace FeedReader

inductive Pending where
  | added (waiting : Nat)
  | replaced
  deriving DecidableEq, Repr

/-- `items` holds the most recent arrival first. -/
structure Queue (α : Type) where
  items : List α := []
  deriving DecidableEq, Repr

namespace Queue

variable {α κ : Type} [Keyed α κ] [DecidableEq κ]

def size (q : Queue α) : Nat := q.items.length

def isEmpty (q : Queue α) : Bool := q.items.isEmpty

def push (q : Queue α) (x : α) : Pending × Queue α :=
  if q.items.any (fun y => key y = key x) then
    (.replaced, ⟨q.items.map fun y => if key y = key x then x else y⟩)
  else
    (.added (q.items.length + 1), ⟨x :: q.items⟩)

def remove (q : Queue α) (k : κ) : Option α × Queue α :=
  (q.items.find? fun y => key y = k, ⟨q.items.eraseP fun y => key y = k⟩)

def drain (q : Queue α) : List α × Queue α :=
  (q.items.reverse, ⟨[]⟩)

end Queue

def newItemsLabel (n : Nat) : String :=
  s!"{n} new item" ++ if n = 1 then "" else "s"

end FeedReader
