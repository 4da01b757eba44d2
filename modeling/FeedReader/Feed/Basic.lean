import FeedReader.Listing.Focus
import FeedReader.Listing.State

/-!
# A feed that grows from two sides

Older items come page by page through a load-more trigger: one load at a time,
and a short page removes the trigger for good.  Newer items arrive unasked: an
arrival that already has a row refreshes the row, any other waits in a queue
until the reader asks for it.

Every call of the render function, every failure reported and every resource
released is written to the feed's `log`, oldest entry first.
-/

namespace FeedReader

/-! ## Vocabulary -/

/-- The reader asks for more (`button`), or nearing the older end does (`sentinel`). -/
inductive TriggerMode where
  | button
  | sentinel
  deriving DecidableEq, Repr, Inhabited

inductive Trigger where
  | armed (mode : TriggerMode)
  | removed
  deriving DecidableEq, Repr

inductive FeedError where
  | missingRenderer
  | invalidPageSize (got : Nat)
  deriving DecidableEq, Repr

def FeedError.message : FeedError → String
  | .missingRenderer => "Feed options are missing a render_item function"
  | .invalidPageSize got => s!"Page size must be at least 1 (got {got})"

/-- A fetch to perform.  The generation tells a late answer from the awaited one. -/
structure LoadRequest where
  cursor : Option String
  count : Nat
  generation : UInt64
  deriving DecidableEq, Repr

inductive LoadOutcome where
  | loaded (added merged : Nat) (noMore : Bool)
  | failed
  | skipped
  | discarded
  deriving DecidableEq, Repr

inductive Arrival where
  | merged (index : Nat)
  | queued (waiting : Nat)
  | requeued
  | discarded
  deriving DecidableEq, Repr

inductive Effect (α ε : Type) where
  | rendered (item : α)
  | failed (error : ε)
  | released (resource : Nat)
  deriving DecidableEq, Repr

/-! ## Options and state -/

structure FeedOptions (α ρ : Type) where
  render? : Option (α → ρ) := none
  pageSize : Nat
  layout : Layout := .forward
  trigger : TriggerMode := .sentinel
  pluralize : Nat → String := newItemsLabel
  emptyState : Option ρ := none
  sentinelDistance : Nat := 3

structure Feed (α κ ρ ε : Type) where
  render : α → ρ
  pluralize : Nat → String
  pageSize : Nat
  layout : Layout
  sentinelDistance : Nat
  /-- Seeded from a bare list: the missing cursor says nothing about exhaustion. -/
  cursorless : Bool
  trigger : Trigger
  listing : Listing α κ ρ := {}
  placeholder : Option ρ := none
  focus : Focus := {}
  generation : UInt64 := 0
  attachments : List Nat := []
  tornDown : Bool := false
  log : List (Effect α ε) := []

namespace Feed

variable {α κ ρ ε : Type} [Keyed α κ] [DecidableEq κ]

/-! ## Placing rows -/

inductive Placed where
  | inserted
  | merged
  deriving DecidableEq, Repr

/-- Insert a row at `index`, or refresh the row that has the item's key. -/
def place (f : Feed α κ ρ ε) (index : Nat) (item : α) : Placed × Feed α κ ρ ε :=
  let row : Row α ρ := ⟨item, f.render item⟩
  let log := f.log ++ [.rendered item]
  match f.listing.position (key item) with
  | some present => (.merged, { f with listing := f.listing.update present row, log })
  | none => (.inserted, { f with listing := (f.listing.insert index row).2, log })

def isExhausted (f : Feed α κ ρ ε) (received : Nat) : Bool :=
  received < f.pageSize || (!f.cursorless && f.listing.cursor.isNone)

def exhaust (f : Feed α κ ρ ε) : Feed α κ ρ ε :=
  { f with listing := f.listing.markNoMore, trigger := .removed }

def start (seed : Seed α) (options : FeedOptions α ρ) : Except FeedError (Feed α κ ρ ε) :=
  match options.render? with
  | none => .error .missingRenderer
  | some render =>
      if options.pageSize = 0 then
        .error (.invalidPageSize 0)
      else
        let blank : Feed α κ ρ ε := {
          render
          pluralize := options.pluralize
          pageSize := options.pageSize
          layout := options.layout
          sentinelDistance := options.sentinelDistance
          cursorless := seed.isBare
          trigger := .armed options.trigger }
        let filled := seed.items.foldl (fun f item => (f.place f.listing.size item).2) blank
        let seeded := { filled with
          listing := { filled.listing with cursor := seed.olderCursor options.layout }
          placeholder := if filled.listing.isEmpty then options.emptyState else none }
        .ok (if seeded.isExhausted seed.items.length then seeded.exhaust else seeded)

/-! ## Loading older items -/

def beginLoad (f : Feed α κ ρ ε) : Option LoadRequest × Feed α κ ρ ε :=
  if f.tornDown || f.listing.loading || f.listing.noMore || f.trigger = .removed then
    (none, f)
  else
    let generation := f.generation + 1
    (some ⟨f.listing.cursor, f.pageSize, generation⟩,
      { f with generation, listing := { f.listing with loading := true } })

structure Tally where
  added : Nat := 0
  merged : Nat := 0
  deriving DecidableEq, Repr

/-- Where the next new row of an older page goes, after `added` of them. -/
def olderEnd (f : Feed α κ ρ ε) (added : Nat) : Nat :=
  match f.layout with
  | .forward => f.listing.size
  | .reverse => added

/-- Take one item of an older page.  A snapshot that waits in the queue is newer and wins. -/
def absorb (progress : Tally × Feed α κ ρ ε) (item : α) : Tally × Feed α κ ρ ε :=
  let (tally, f) := progress
  let (waiting, queue) := f.listing.queue.remove (key item)
  let f := { f with listing := { f.listing with queue } }
  match f.place (f.olderEnd tally.added) (waiting.getD item) with
  | (.inserted, f) => ({ tally with added := tally.added + 1 }, f)
  | (.merged, f) => ({ tally with merged := tally.merged + 1 }, f)

def isAwaited (f : Feed α κ ρ ε) (request : LoadRequest) : Bool :=
  !f.tornDown && f.listing.loading && request.generation = f.generation

def finishLoad (f : Feed α κ ρ ε) (request : LoadRequest) (result : Except ε (Page α)) :
    LoadOutcome × Feed α κ ρ ε :=
  if !f.isAwaited request then
    (.discarded, f)
  else
    let idle := { f with listing := { f.listing with loading := false } }
    match result with
    | .error error => (.failed, { idle with log := idle.log ++ [.failed error] })
    | .ok page =>
        let lenBefore := idle.listing.size
        let (tally, filled) := page.items.foldl absorb ({}, idle)
        let insertedAt := match f.layout with
          | .forward => lenBefore
          | .reverse => 0
        let loaded := { filled with
          focus := filled.focus.inserted insertedAt tally.added lenBefore
          placeholder := if 0 < tally.added then none else filled.placeholder
          listing := { filled.listing with cursor := page.olderCursor f.layout } }
        have noMore := loaded.isExhausted page.items.length
        (.loaded tally.added tally.merged noMore, if noMore then loaded.exhaust else loaded)

def loadMore (f : Feed α κ ρ ε) (source : Option String → Nat → Except ε (Page α)) :
    LoadOutcome × Feed α κ ρ ε :=
  match f.beginLoad with
  | (none, f) => (.skipped, f)
  | (some request, f) => f.finishLoad request (source request.cursor request.count)

/-! ## Live arrivals -/

def enqueue (f : Feed α κ ρ ε) (item : α) : Arrival × Feed α κ ρ ε :=
  if f.tornDown then
    (.discarded, f)
  else
    match f.listing.position (key item) with
    | some index =>
        (.merged index, { f with
          listing := f.listing.update index ⟨item, f.render item⟩
          log := f.log ++ [.rendered item] })
    | none =>
        match f.listing.queue.push item with
        | (.added waiting, queue) =>
            (.queued waiting, { f with listing := { f.listing with queue } })
        | (.replaced, queue) => (.requeued, { f with listing := { f.listing with queue } })

def settle (progress : Nat × Feed α κ ρ ε) (item : α) : Nat × Feed α κ ρ ε :=
  let (added, f) := progress
  let newerEnd := match f.layout with
    | .forward => 0
    | .reverse => f.listing.size
  match f.place newerEnd item with
  | (.inserted, f) => (added + 1, f)
  | (.merged, f) => (added, f)

def flush (f : Feed α κ ρ ε) : Nat × Feed α κ ρ ε :=
  if f.tornDown || f.listing.queue.isEmpty then
    (0, f)
  else
    let (arrivals, queue) := f.listing.queue.drain
    let lenBefore := f.listing.size
    let (added, shown) := arrivals.foldl settle (0, { f with listing := { f.listing with queue } })
    let insertedAt := match f.layout with
      | .forward => 0
      | .reverse => lenBefore
    (added, { shown with
      focus := shown.focus.inserted insertedAt added lenBefore
      placeholder := none })

/-! ## Removal, focus and teardown -/

def remove (f : Feed α κ ρ ε) (k : κ) : Option α × Feed α κ ρ ε :=
  match f.listing.remove k with
  | (none, _) => (none, f)
  | (some (index, row), listing) =>
      (some row.item, { f with listing, focus := f.focus.removed index })

def navigate (f : Feed α κ ρ ε) (nav : Nav) : Option Nat × Feed α κ ρ ε :=
  if f.tornDown then
    (none, f)
  else
    let (index, focus) := f.focus.navigate nav f.listing.size
    (index, { f with focus })

def attach (f : Feed α κ ρ ε) (resource : Nat) : Feed α κ ρ ε :=
  if f.tornDown then
    { f with log := f.log ++ [.released resource] }
  else
    { f with attachments := f.attachments ++ [resource] }

def teardown (f : Feed α κ ρ ε) : Feed α κ ρ ε :=
  if f.tornDown then
    f
  else
    { f with
      tornDown := true
      attachments := []
      log := f.log ++ f.attachments.map .released
      trigger := .removed
      listing := f.listing.clear
      placeholder := none
      focus := f.focus.reset }

/-- A feed that is let go of releases what it holds, as if it had been torn down. -/
def drop (f : Feed α κ ρ ε) : Feed α κ ρ ε := f.teardown

/-! ## Views -/

def nodes (f : Feed α κ ρ ε) : List ρ := f.listing.rows.map Row.node

def items (f : Feed α κ ρ ε) : List α := f.listing.rows.map Row.item

def item? (f : Feed α κ ρ ε) (index : Nat) : Option α := f.items[index]?

def contains (f : Feed α κ ρ ε) (k : κ) : Bool := f.listing.contains k

def queued (f : Feed α κ ρ ε) : List α := f.listing.queue.items

def affordance (f : Feed α κ ρ ε) : Option String :=
  if f.listing.queue.isEmpty then none else some (f.pluralize f.listing.queue.size)

def focused (f : Feed α κ ρ ε) : Option Nat :=
  if f.tornDown then none else f.focus.current f.listing.size

def focusedItem (f : Feed α κ ρ ε) : Option α := f.focused.bind f.item?

def sentinelVisible (f : Feed α κ ρ ε) : Bool :=
  !f.listing.loading && f.trigger = .armed .sentinel &&
    match f.focus.current f.listing.size with
    | none => false
    | some index =>
        match f.layout with
        | .forward => f.listing.size - 1 - index ≤ f.sentinelDistance
        | .reverse => index ≤ f.sentinelDistance

def renderedItems (f : Feed α κ ρ ε) : List α :=
  f.log.filterMap fun
    | .rendered item => some item
    | _ => none

def reportedErrors (f : Feed α κ ρ ε) : List ε :=
  f.log.filterMap fun
    | .failed error => some error
    | _ => none

def releasedResources (f : Feed α κ ρ ε) : List Nat :=
  f.log.filterMap fun
    | .released resource => some resource
    | _ => none

end Feed

end FeedReader
