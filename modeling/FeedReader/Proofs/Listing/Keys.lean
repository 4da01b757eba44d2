import Mathlib.Data.List.InsertIdx
import Mathlib.Data.List.Nodup
import FeedReader.Listing.State

/-!
# Keys of rows and keys of the queue

Rows and queue are described by their keys alone.  A sound listing has each key
at most once, be it in a row or in the queue, and its key set names exactly the
keys that have a row.
-/

namespace FeedReader

variable {α κ ρ : Type} [Keyed α κ]

/-! ## The queue -/

namespace Queue

def keys (q : Queue α) : List κ := q.items.map key

@[simp] theorem keys_nil : (⟨[]⟩ : Queue α).keys = ([] : List κ) := rfl

@[simp] theorem isEmpty_iff (q : Queue α) : q.isEmpty = true ↔ q.items = [] := by
  simp [isEmpty]

theorem keys_eq_nil_iff (q : Queue α) : q.keys = ([] : List κ) ↔ q.items = [] := by
  simp [keys]

theorem keys_drain (q : Queue α) : q.drain.1.map key = q.keys.reverse := by
  simp [drain, keys]

variable [DecidableEq κ]

theorem keys_push (q : Queue α) (x : α) :
    (q.push x).2.keys = if key x ∈ q.keys then q.keys else key x :: q.keys := by
  have hany : (q.items.any fun y => key y = key x) = decide (key x ∈ q.keys) := by
    rw [Bool.eq_iff_iff]
    simp [keys]
  by_cases hx : key x ∈ q.keys
  · have hkeep : ∀ y ∈ q.items, key (if key y = key x then x else y) = key y := by
      intro y _
      split
      · next h => exact h.symm
      · rfl
    rw [push, hany, if_pos (decide_eq_true hx), if_pos hx]
    simpa [keys] using hkeep
  · rw [push, hany, if_neg (by simpa using hx), if_neg hx]
    rfl

theorem mem_keys_push (q : Queue α) (x : α) (k : κ) :
    k ∈ (q.push x).2.keys ↔ k = key x ∨ k ∈ q.keys := by
  rw [keys_push]
  split
  · next hx =>
      constructor
      · exact Or.inr
      · rintro (rfl | hk)
        · exact hx
        · exact hk
  · simp

theorem nodup_keys_push {q : Queue α} (h : q.keys.Nodup) (x : α) :
    (q.push x).2.keys.Nodup := by
  rw [keys_push]
  split
  · exact h
  · next hx => exact List.nodup_cons.mpr ⟨hx, h⟩

theorem keys_remove (q : Queue α) (k : κ) : (q.remove k).2.keys = q.keys.erase k := by
  have hpred : (fun y : α => decide (key y = k)) = (fun j : κ => j == k) ∘ key := by
    funext y
    rfl
  rw [remove, keys, keys, List.erase_eq_eraseP', List.eraseP_map, hpred]

theorem keys_remove_of_nodup {q : Queue α} (h : (q.keys : List κ).Nodup) (k : κ) :
    (q.remove k).2.keys = q.keys.filter (· ≠ k) := by
  rw [keys_remove, h.erase_eq_filter]
  apply List.filter_congr
  intro j _
  simp [bne, Bool.beq_eq_decide_eq]

theorem key_of_remove {q : Queue α} {k : κ} {x : α} (h : (q.remove k).1 = some x) :
    key x = k := by
  simpa using List.find?_some h

end Queue

/-! ## The rows -/

namespace Listing

def rowKeys (l : Listing α κ ρ) : List κ := l.rows.map fun row => key row.item

@[simp] theorem length_rowKeys (l : Listing α κ ρ) : l.rowKeys.length = l.size := by
  simp [rowKeys, size]

theorem rowKeys_eq_nil_iff (l : Listing α κ ρ) : l.rowKeys = [] ↔ l.rows = [] := by
  simp [rowKeys]

/-- No key has two rows, two places in the queue, or a row and a place in the queue. -/
structure Sound (l : Listing α κ ρ) : Prop where
  rows_distinct : l.rowKeys.Nodup
  keys_distinct : l.keys.Nodup
  mem_keys : ∀ k, k ∈ l.keys ↔ k ∈ l.rowKeys
  queue_distinct : (l.queue.keys : List κ).Nodup
  apart : ∀ k ∈ l.queue.keys, k ∉ l.rowKeys

theorem sound_empty : ({} : Listing α κ ρ).Sound := by
  constructor <;> simp [rowKeys, Queue.keys]

theorem Sound.clear (l : Listing α κ ρ) : l.clear.Sound := by
  constructor <;> simp [Listing.clear, rowKeys, Queue.keys]

theorem Sound.setQueue {l : Listing α κ ρ} (h : l.Sound) {queue : Queue α}
    (hnodup : (queue.keys : List κ).Nodup) (hapart : ∀ k ∈ queue.keys, k ∉ l.rowKeys) :
    ({ l with queue } : Listing α κ ρ).Sound :=
  ⟨h.rows_distinct, h.keys_distinct, h.mem_keys, hnodup, hapart⟩

variable [DecidableEq κ]

theorem Sound.contains_iff {l : Listing α κ ρ} (h : l.Sound) (k : κ) :
    l.contains k = true ↔ k ∈ l.rowKeys := by
  rw [contains, decide_eq_true_iff]
  exact h.mem_keys k

theorem Sound.position_eq_none_iff {l : Listing α κ ρ} (h : l.Sound) (k : κ) :
    l.position k = none ↔ k ∉ l.rowKeys := by
  rw [position]
  split
  · next hk =>
      simp [rowKeys]
  · next hk => simpa using mt (h.mem_keys k).mpr hk

theorem Sound.position_eq_some_iff {l : Listing α κ ρ} (h : l.Sound) (k : κ) (i : Nat) :
    l.position k = some i ↔ l.rowKeys[i]? = some k := by
  constructor
  · intro hpos
    rw [position] at hpos
    split at hpos
    · obtain ⟨hi, hkey, -⟩ := List.findIdx?_eq_some_iff_getElem.mp hpos
      have hkey : key (l.rows[i].item) = k := by simpa using hkey
      simp [rowKeys, hi, hkey]
    · contradiction
  · intro hkey
    have hmem : k ∈ l.rowKeys := List.mem_of_getElem? hkey
    cases hpos : l.position k with
    | none => exact absurd hmem ((h.position_eq_none_iff k).mp hpos)
    | some j =>
        rw [position, if_pos ((h.mem_keys k).mpr hmem)] at hpos
        obtain ⟨hj, hat, -⟩ := List.findIdx?_eq_some_iff_getElem.mp hpos
        have hat : l.rowKeys[j]? = some k := by
          simpa [rowKeys, hj] using hat
        obtain ⟨hi, hkey⟩ := List.getElem?_eq_some_iff.mp hkey
        obtain ⟨hj, hat⟩ := List.getElem?_eq_some_iff.mp hat
        have hji : j = i := h.rows_distinct.getElem_inj_iff.mp (hat.trans hkey.symm)
        rw [hji]

/-! ## Changing rows -/

theorem rowKeys_insert {l : Listing α κ ρ} (h : l.Sound) (index : Nat) (row : Row α ρ)
    (hnew : key row.item ∉ l.rowKeys) :
    (l.insert index row).2.rowKeys =
      l.rowKeys.insertIdx (min index l.size) (key row.item) := by
  rw [insert, if_neg (mt (h.mem_keys _).mp hnew)]
  simp [rowKeys, List.map_insertIdx, size]

theorem Sound.insert {l : Listing α κ ρ} (h : l.Sound) (index : Nat) (row : Row α ρ)
    (hnew : key row.item ∉ l.rowKeys) (hqueue : key row.item ∉ l.queue.keys) :
    (l.insert index row).2.Sound := by
  have hperm : (l.insert index row).2.rowKeys.Perm (key row.item :: l.rowKeys) := by
    rw [rowKeys_insert h index row hnew]
    exact List.perm_insertIdx _ _ (by simp only [length_rowKeys]; omega)
  have hfresh : key row.item ∉ l.keys := mt (h.mem_keys _).mp hnew
  have hkeys : (l.insert index row).2.keys = key row.item :: l.keys := by
    rw [Listing.insert, if_neg hfresh]
  have hrest : (l.insert index row).2.queue = l.queue := by
    rw [Listing.insert, if_neg hfresh]
  constructor
  · exact hperm.nodup_iff.mpr (List.nodup_cons.mpr ⟨hnew, h.rows_distinct⟩)
  · rw [hkeys]
    exact List.nodup_cons.mpr ⟨hfresh, h.keys_distinct⟩
  · intro k
    rw [hkeys, hperm.mem_iff, List.mem_cons, List.mem_cons, h.mem_keys k]
  · rw [hrest]
    exact h.queue_distinct
  · intro k hk
    rw [hrest] at hk
    rw [hperm.mem_iff, List.mem_cons, not_or]
    refine ⟨?_, h.apart k hk⟩
    rintro rfl
    exact hqueue hk

omit [DecidableEq κ] in
theorem rowKeys_update {l : Listing α κ ρ} {index : Nat} {row : Row α ρ}
    (hkey : l.rowKeys[index]? = some (key row.item)) :
    (l.update index row).rowKeys = l.rowKeys := by
  obtain ⟨hi, hkey⟩ := List.getElem?_eq_some_iff.mp hkey
  rw [rowKeys, update, List.map_set, ← hkey]
  exact List.set_getElem_self hi

omit [DecidableEq κ] in
theorem Sound.update {l : Listing α κ ρ} (h : l.Sound) {index : Nat} {row : Row α ρ}
    (hkey : l.rowKeys[index]? = some (key row.item)) : (l.update index row).Sound := by
  have hrows := rowKeys_update hkey
  refine ⟨hrows ▸ h.rows_distinct, h.keys_distinct, ?_, h.queue_distinct, ?_⟩
  · intro k
    rw [hrows]
    exact h.mem_keys k
  · intro k hk
    rw [hrows]
    exact h.apart k hk

def eraseRow (l : Listing α κ ρ) (index : Nat) (k : κ) : Listing α κ ρ :=
  { l with rows := l.rows.eraseIdx index, keys := l.keys.erase k }

theorem Sound.rowKeys_eraseRow {l : Listing α κ ρ} (h : l.Sound) {index : Nat} {k : κ}
    (hkey : l.rowKeys[index]? = some k) : (l.eraseRow index k).rowKeys = l.rowKeys.erase k := by
  obtain ⟨hi, hkey⟩ := List.getElem?_eq_some_iff.mp hkey
  have hidx : l.rowKeys.idxOf k = index := by
    rw [← hkey]
    exact h.rows_distinct.idxOf_getElem index hi
  rw [← List.eraseIdx_idxOf_eq_erase k l.rowKeys, hidx, rowKeys, rowKeys, List.eraseIdx_map,
    eraseRow]

theorem Sound.eraseRow {l : Listing α κ ρ} (h : l.Sound) {index : Nat} {k : κ}
    (hkey : l.rowKeys[index]? = some k) : (l.eraseRow index k).Sound := by
  have hrows := h.rowKeys_eraseRow hkey
  refine ⟨hrows ▸ h.rows_distinct.erase k, h.keys_distinct.erase k, ?_, h.queue_distinct, ?_⟩
  · intro j
    change j ∈ l.keys.erase k ↔ _
    rw [hrows, h.keys_distinct.mem_erase_iff, h.rows_distinct.mem_erase_iff, h.mem_keys j]
  · intro j hj
    rw [hrows]
    exact fun hmem => h.apart j hj (List.mem_of_mem_erase hmem)

theorem Sound.remove_cases {l : Listing α κ ρ} (h : l.Sound) (k : κ) :
    (k ∉ l.rowKeys ∧ l.remove k = (none, l)) ∨
      ∃ index row, l.rowKeys[index]? = some k ∧ l.rows[index]? = some row ∧
        l.remove k = (some (index, row), l.eraseRow index k) := by
  cases hpos : l.position k with
  | none =>
      refine Or.inl ⟨(h.position_eq_none_iff k).mp hpos, ?_⟩
      rw [remove, hpos]
  | some index =>
      have hkey := (h.position_eq_some_iff k index).mp hpos
      have hi : index < l.rows.length := by
        simpa [size] using (List.getElem?_eq_some_iff.mp hkey).1
      have hrow : l.rows[index]? = some l.rows[index] := List.getElem?_eq_getElem hi
      refine Or.inr ⟨index, l.rows[index], hkey, hrow, ?_⟩
      simp only [remove, hpos, hrow, Listing.eraseRow]

end Listing

end FeedReader
