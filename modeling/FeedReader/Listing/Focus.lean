/-!
# Roving focus

One row of a list holds the focus.  The stored index is never trusted: rows
come and go between navigations, so each reading clamps it into the current
number of rows.
-/

namespace FeedReader

inductive Nav where
  | prev
  | next
  | first
  | last
  deriving DecidableEq, Repr

/--
The index of the focused row.  With a `ceiling` the index sticks there instead
of growing past it, as a machine word does that saturates.
-/
structure Focus where
  ceiling : Option Nat := none
  index : Nat := 0
  deriving DecidableEq, Repr

namespace Focus

def raise (f : Focus) (count : Nat) : Nat :=
  match f.ceiling with
  | none => f.index + count
  | some limit => min (f.index + count) limit

def current (f : Focus) (len : Nat) : Option Nat :=
  if len = 0 then none else some (min f.index (len - 1))

def navigate (f : Focus) (nav : Nav) (len : Nat) : Option Nat × Focus :=
  if len = 0 then
    (none, { f with index := 0 })
  else
    let last := len - 1
    let current := min f.index last
    let index :=
      match nav with
      | .prev => current - 1
      | .next => min (current + 1) last
      | .first => 0
      | .last => last
    (some index, { f with index })

def inserted (f : Focus) (at_ count lenBefore : Nat) : Focus :=
  if 0 < lenBefore ∧ at_ ≤ f.index then { f with index := f.raise count } else f

def removed (f : Focus) (at_ : Nat) : Focus :=
  if at_ < f.index then { f with index := f.index - 1 } else f

def reset (f : Focus) : Focus :=
  { f with index := 0 }

end Focus

end FeedReader
