import Mathlib.Data.List.Induction
import FeedReader.Listing.Focus
import FeedReader.Words

/-!
# Focus arithmetic in words

A focus that is kept in a word of 64 bits may be told any numbers of rows and any places, also ones
that do not fit together.  Each of its sums and differences has a result all the same, but for the
two that stick at the ends of the word on purpose, and each answer is a row if there is one.
-/

namespace FeedReader.Focus

/-! ## Runs -/

def wordMax : Nat := UInt64.size - 1

inductive Op where
  | navigate (nav : Nav) (len : UInt64)
  | current (len : UInt64)
  | inserted (at_ count lenBefore : UInt64)
  | removed (at_ : UInt64)
  | reset

def perform (f : Focus) : Op → Option Nat × Focus
  | .navigate nav len => f.navigate nav len.toNat
  | .current len => (f.current len.toNat, f)
  | .inserted at_ count lenBefore => (none, f.inserted at_.toNat count.toNat lenBefore.toNat)
  | .removed at_ => (none, f.removed at_.toNat)
  | .reset => (none, f.reset)

def after (ops : List Op) : Focus :=
  ops.foldl (fun f op => (f.perform op).2) { ceiling := some wordMax }

theorem after_concat (ops : List Op) (op : Op) :
    after (ops ++ [op]) = ((after ops).perform op).2 := by
  rw [after, List.foldl_append]
  rfl

/-! ## Computing in words -/

def current? (f : Focus) (len : Nat) : Option (Option Nat) :=
  if len = 0 then some none else (Word.sub? len 1).map fun last => some (min f.index last)

/-- As `navigate`, as long as no difference is below zero and the sum stays in its word. -/
def navigate? (f : Focus) (nav : Nav) (len : Nat) : Option (Option Nat × Focus) :=
  if len = 0 then
    some (none, { f with index := 0 })
  else do
    let last ← Word.sub? len 1
    let current := min f.index last
    let index ←
      match nav with
      | .prev => some (current - 1)
      | .next => (Word.add? UInt64.size current 1).map (min · last)
      | .first => some 0
      | .last => some last
    return (some index, { f with index })

def removed? (f : Focus) (at_ : Nat) : Option Focus :=
  if at_ < f.index then (Word.sub? f.index 1).map fun index => { f with index } else some f

def perform? (f : Focus) : Op → Option (Option Nat × Focus)
  | .navigate nav len => f.navigate? nav len.toNat
  | .current len => (f.current? len.toNat).map fun answer => (answer, f)
  | .inserted at_ count lenBefore => some (none, f.inserted at_.toNat count.toNat lenBefore.toNat)
  | .removed at_ => (f.removed? at_.toNat).map fun f => (none, f)
  | .reset => some (none, f.reset)

theorem current?_eq (f : Focus) (len : Nat) : f.current? len = some (f.current len) := by
  rw [current?, current]
  split
  · rfl
  · next hlen => rw [Word.sub?_of_le (Nat.pos_of_ne_zero hlen), Option.map_some]

theorem navigate?_eq (f : Focus) (nav : Nav) {len : Nat} (h : len < UInt64.size) :
    f.navigate? nav len = some (f.navigate nav len) := by
  rw [navigate?, navigate]
  split
  · rfl
  · next hlen =>
      have hnext : min f.index (len - 1) + 1 < UInt64.size := by omega
      rw [Word.sub?_of_le (Nat.pos_of_ne_zero hlen)]
      cases nav with
      | next => simp [Word.add?_of_lt hnext]
      | _ => rfl

theorem removed?_eq (f : Focus) (at_ : Nat) : f.removed? at_ = some (f.removed at_) := by
  rw [removed?, removed]
  split
  · next h => rw [Word.sub?_of_le (Nat.zero_lt_of_lt h), Option.map_some]
  · rfl

theorem perform?_eq (f : Focus) (op : Op) : f.perform? op = some (f.perform op) := by
  cases op with
  | navigate nav len => exact navigate?_eq f nav len.toNat_lt
  | current len => rw [perform?, current?_eq, Option.map_some, perform]
  | inserted at_ count lenBefore => rfl
  | removed at_ => rw [perform?, removed?_eq, Option.map_some, perform]
  | reset => rfl

/-! ## The index is a word -/

structure InWord (f : Focus) : Prop where
  ceiling : f.ceiling = some wordMax
  index_lt : f.index < UInt64.size

theorem InWord.withIndex {f : Focus} (h : f.InWord) {index : Nat} (hindex : index < UInt64.size) :
    InWord { f with index } :=
  ⟨h.ceiling, hindex⟩

theorem InWord.perform {f : Focus} (h : f.InWord) (op : Op) : (f.perform op).2.InWord := by
  have hindex := h.index_lt
  cases op with
  | navigate nav len =>
      have hlen : len.toNat < UInt64.size := len.toNat_lt
      rw [Focus.perform, navigate]
      split
      · exact h.withIndex (by decide)
      · cases nav <;> exact h.withIndex (by dsimp only; omega)
  | current len => exact h
  | inserted at_ count lenBefore =>
      rw [Focus.perform, inserted]
      split
      · have hraise : f.raise count.toNat ≤ wordMax := by
          rw [raise, h.ceiling]
          exact Nat.min_le_right _ _
        exact h.withIndex (Nat.lt_of_le_of_lt hraise (by decide))
      · exact h
  | removed at_ =>
      rw [Focus.perform, removed]
      split
      · exact h.withIndex (by omega)
      · exact h
  | reset => exact h.withIndex (by decide)

theorem inWord_after (ops : List Op) : (after ops).InWord := by
  induction ops using List.reverseRecOn with
  | nil => exact ⟨rfl, by decide⟩
  | append_singleton ops op ih =>
      rw [after_concat]
      exact ih.perform op

/-! ## Answers -/

/-- One of `len` rows, or none if there are none. -/
def IsRow (len : Nat) : Option Nat → Prop
  | none => len = 0
  | some index => index < len

theorem isRow_current (f : Focus) (len : Nat) : IsRow len (f.current len) := by
  rw [current]
  split
  · next hlen => exact hlen
  · next hlen =>
      change min f.index (len - 1) < len
      omega

theorem isRow_navigate (f : Focus) (nav : Nav) (len : Nat) : IsRow len (f.navigate nav len).1 := by
  rw [navigate]
  split
  · next hlen => exact hlen
  · next hlen =>
      dsimp only [IsRow]
      cases nav <;> dsimp only <;> omega

end FeedReader.Focus
