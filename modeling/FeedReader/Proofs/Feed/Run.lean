import FeedReader.Feed.Basic
import FeedReader.Proofs.Splits

/-!
# Runs of a feed

All that may be asked of a feed is an `Op`, and what the feed says to it is an
`Answer`.  A run performs a list of operations one after the other; its history
pairs each of them with the answer it got, oldest first.
-/

namespace FeedReader.Feed

inductive Op (α κ ε : Type) where
  | beginLoad
  | finishLoad (request : LoadRequest) (result : Except ε (Page α))
  | enqueue (item : α)
  | flush
  | remove (k : κ)
  | navigate (nav : Nav)
  | attach (resource : Nat)
  | teardown

inductive Answer (α : Type) where
  | asked (request : Option LoadRequest)
  | finished (outcome : LoadOutcome)
  | arrived (arrival : Arrival)
  | shown (added : Nat)
  | dropped (item : Option α)
  | moved (index : Option Nat)
  | done
  deriving DecidableEq

structure Event (α κ ε : Type) where
  op : Op α κ ε
  answer : Answer α

variable {α κ ρ ε : Type} [Keyed α κ] [DecidableEq κ]

def perform (f : Feed α κ ρ ε) : Op α κ ε → Answer α × Feed α κ ρ ε
  | .beginLoad => (.asked f.beginLoad.1, f.beginLoad.2)
  | .finishLoad request result =>
      (.finished (f.finishLoad request result).1, (f.finishLoad request result).2)
  | .enqueue item => (.arrived (f.enqueue item).1, (f.enqueue item).2)
  | .flush => (.shown f.flush.1, f.flush.2)
  | .remove k => (.dropped (f.remove k).1, (f.remove k).2)
  | .navigate nav => (.moved (f.navigate nav).1, (f.navigate nav).2)
  | .attach resource => (.done, f.attach resource)
  | .teardown => (.done, f.teardown)

def after (f : Feed α κ ρ ε) : List (Op α κ ε) → Feed α κ ρ ε
  | [] => f
  | op :: ops => (f.perform op).2.after ops

def history (f : Feed α κ ρ ε) : List (Op α κ ε) → List (Event α κ ε)
  | [] => []
  | op :: ops => ⟨op, (f.perform op).1⟩ :: (f.perform op).2.history ops

@[simp] theorem after_nil (f : Feed α κ ρ ε) : f.after [] = f := rfl

@[simp] theorem after_cons (f : Feed α κ ρ ε) (op : Op α κ ε) (ops : List (Op α κ ε)) :
    f.after (op :: ops) = (f.perform op).2.after ops := rfl

@[simp] theorem history_nil (f : Feed α κ ρ ε) : f.history [] = [] := rfl

@[simp] theorem history_cons (f : Feed α κ ρ ε) (op : Op α κ ε) (ops : List (Op α κ ε)) :
    f.history (op :: ops) = ⟨op, (f.perform op).1⟩ :: (f.perform op).2.history ops := rfl

theorem after_append (f : Feed α κ ρ ε) (first second : List (Op α κ ε)) :
    f.after (first ++ second) = (f.after first).after second := by
  induction first generalizing f with
  | nil => rfl
  | cons op first ih => exact ih (f.perform op).2

theorem history_append (f : Feed α κ ρ ε) (first second : List (Op α κ ε)) :
    f.history (first ++ second) = f.history first ++ (f.after first).history second := by
  induction first generalizing f with
  | nil => rfl
  | cons op first ih =>
      simp only [List.cons_append, history_cons, after_cons]
      rw [ih (f.perform op).2]

theorem after_append_singleton (f : Feed α κ ρ ε) (ops : List (Op α κ ε)) (op : Op α κ ε) :
    f.after (ops ++ [op]) = ((f.after ops).perform op).2 :=
  after_append f ops [op]

theorem history_append_singleton (f : Feed α κ ρ ε) (ops : List (Op α κ ε)) (op : Op α κ ε) :
    f.history (ops ++ [op]) = f.history ops ++ [⟨op, ((f.after ops).perform op).1⟩] :=
  history_append f ops [op]

inductive Reachable : Feed α κ ρ ε → Prop where
  | start {seed : Seed α} {options : FeedOptions α ρ} {f : Feed α κ ρ ε} :
      Feed.start seed options = .ok f → Reachable f
  | perform {f : Feed α κ ρ ε} (op : Op α κ ε) : Reachable f → Reachable (f.perform op).2

theorem Reachable.after {f : Feed α κ ρ ε} (h : Reachable f) (ops : List (Op α κ ε)) :
    Reachable (f.after ops) := by
  induction ops generalizing f with
  | nil => exact h
  | cons op ops ih => exact ih (.perform op h)

/-! ## A smallest feed -/

structure Snapshot where
  number : Nat
  version : Nat := 0
  deriving DecidableEq

instance : Keyed Snapshot Nat := ⟨Snapshot.number⟩

/-- Two snapshots to a page, each shown as its version. -/
def snapshotOptions (layout : Layout) : FeedOptions Snapshot Nat where
  render? := some Snapshot.version
  pageSize := 2
  layout := layout

abbrev SnapshotFeed := Feed Snapshot Nat Nat Unit

def snapshotFeed (seed : Seed Snapshot) (layout : Layout) : SnapshotFeed :=
  (Feed.start seed (snapshotOptions layout)).toOption.get rfl

theorem start_snapshotFeed (seed : Seed Snapshot) (layout : Layout) :
    Feed.start seed (snapshotOptions layout) = .ok (snapshotFeed seed layout) := rfl

end FeedReader.Feed
