import Mathlib.Data.List.Perm.Basic
import FeedReader.Proofs.Listing.Keys

/-!
# The snapshot held of a key

Where keys are distinct, a key has at most one snapshot, wherever it stands.  So
rows and queue are described by what they hold of each key: an insertion, a
refreshed row and an arrival set one key, and a removal clears one.
-/

namespace FeedReader

variable {α κ ρ : Type} [Keyed α κ] [DecidableEq κ]

/-! ## Lists of items -/

def snapshot? (items : List α) (k : κ) : Option α := items.find? fun item => key item = k

@[simp] theorem snapshot?_nil (k : κ) : snapshot? ([] : List α) k = none := rfl

theorem snapshot?_cons (x : α) (items : List α) (k : κ) :
    snapshot? (x :: items) k = if key x = k then some x else snapshot? items k := by
  rw [snapshot?, List.find?_cons, snapshot?]
  by_cases hx : key x = k
  · simp [hx]
  · simp [hx]

theorem key_of_snapshot? {items : List α} {k : κ} {x : α} (h : snapshot? items k = some x) :
    key x = k := by
  simpa using List.find?_some h

theorem snapshot?_eq_none_iff (items : List α) (k : κ) :
    snapshot? items k = none ↔ k ∉ items.map key := by
  simp [snapshot?]

theorem snapshot?_eq_some_iff {items : List α} (h : (items.map key).Nodup) (k : κ) (x : α) :
    snapshot? items k = some x ↔ x ∈ items ∧ key x = k := by
  constructor
  · intro hx
    exact ⟨List.mem_of_find?_eq_some hx, key_of_snapshot? hx⟩
  · rintro ⟨hx, rfl⟩
    cases hfound : snapshot? items (key x) with
    | none => exact absurd (List.mem_map_of_mem hx) ((snapshot?_eq_none_iff _ _).mp hfound)
    | some y =>
        have hy : y ∈ items := List.mem_of_find?_eq_some hfound
        rw [List.inj_on_of_nodup_map h hy hx (key_of_snapshot? hfound)]

theorem snapshot?_perm {items items' : List α} (hperm : items.Perm items')
    (h : (items.map key).Nodup) (k : κ) : snapshot? items k = snapshot? items' k := by
  have h' : (items'.map key).Nodup := (hperm.map key).nodup_iff.mp h
  apply Option.ext
  intro x
  rw [snapshot?_eq_some_iff h, snapshot?_eq_some_iff h', hperm.mem_iff]

theorem snapshot?_insertIdx {items : List α} (h : (items.map key).Nodup) {index : Nat}
    (hindex : index ≤ items.length) {x : α} (hnew : key x ∉ items.map key) (k : κ) :
    snapshot? (items.insertIdx index x) k = if key x = k then some x else snapshot? items k := by
  have hperm : (items.insertIdx index x).Perm (x :: items) := List.perm_insertIdx x items hindex
  have hnodup : ((x :: items).map key).Nodup := List.nodup_cons.mpr ⟨hnew, h⟩
  rw [← snapshot?_perm hperm.symm hnodup, snapshot?_cons]

theorem snapshot?_eraseIdx {items : List α} (h : (items.map key).Nodup) {index : Nat} {j k : κ}
    (hkey : (items.map key)[index]? = some j) (hk : j ≠ k) :
    snapshot? (items.eraseIdx index) k = snapshot? items k := by
  obtain ⟨hindex, hkey⟩ := List.getElem?_eq_some_iff.mp hkey
  rw [List.length_map] at hindex
  rw [List.getElem_map] at hkey
  have hperm := (List.getElem_cons_eraseIdx_perm hindex).symm
  rw [snapshot?_perm hperm h, snapshot?_cons, hkey, if_neg hk]

theorem snapshot?_set {items : List α} (h : (items.map key).Nodup) {index : Nat} {x : α}
    (hkey : (items.map key)[index]? = some (key x)) (k : κ) :
    snapshot? (items.set index x) k = if key x = k then some x else snapshot? items k := by
  obtain ⟨hindex, hat⟩ := List.getElem?_eq_some_iff.mp hkey
  have hsame : (items.set index x).map key = items.map key := by
    rw [List.map_set, ← hat]
    exact List.set_getElem_self hindex
  rw [List.length_map] at hindex
  rw [snapshot?_perm (List.set_perm_cons_eraseIdx hindex x) (hsame ▸ h), snapshot?_cons]
  split
  · rfl
  · next hk => exact snapshot?_eraseIdx h hkey hk

omit [DecidableEq κ] in
theorem map_key_filter (p : κ → Bool) (items : List α) :
    (items.filter fun item => p (key item)).map key = (items.map key).filter p :=
  List.filter_map.symm

theorem map_snapshot?_keys {items part : List α} (h : (items.map key).Nodup)
    (hpart : part ⊆ items) : (part.map key).map (snapshot? items) = part.map some := by
  rw [List.map_map]
  apply List.map_congr_left
  intro x hx
  exact (snapshot?_eq_some_iff h (key x) x).mpr ⟨hpart hx, rfl⟩

theorem eq_iff_map_key_eq {items first second : List α} (h : (items.map key).Nodup)
    (hfirst : first ⊆ items) (hsecond : second ⊆ items) :
    first = second ↔ first.map key = second.map key := by
  constructor
  · rintro rfl
    rfl
  · intro heq
    have hsome : first.map some = second.map some := by
      rw [← map_snapshot?_keys h hfirst, heq, map_snapshot?_keys h hsecond]
    exact List.map_injective_iff.mpr (fun _ _ => Option.some.inj) hsome

theorem eq_of_snapshot?_eq {items items' : List α} (h : (items.map key).Nodup)
    (hkeys : items.map key = items'.map key)
    (hsnapshot : ∀ k : κ, snapshot? items k = snapshot? items' k) : items = items' := by
  have hsome : items.map some = items'.map some := by
    rw [← map_snapshot?_keys h (List.Subset.refl _),
      ← map_snapshot?_keys (hkeys ▸ h) (List.Subset.refl _), hkeys, funext hsnapshot]
  exact List.map_injective_iff.mpr (fun _ _ => Option.some.inj) hsome

/-! ## The queue -/

namespace Queue

theorem snapshot?_push (q : Queue α) (x : α) (k : κ) :
    snapshot? (q.push x).2.items k = if key x = k then some x else snapshot? q.items k := by
  rw [push]
  split
  · next hwaits =>
      have hkeep : (fun y => decide (key y = k)) ∘ (fun y => if key y = key x then x else y) =
          fun y : α => decide (key y = k) := by
        funext y
        dsimp only [Function.comp_apply]
        split
        · next hy => rw [hy]
        · rfl
      change (q.items.map fun y => if key y = key x then x else y).find? _ = _
      rw [List.find?_map, hkeep]
      change (snapshot? q.items k).map _ = _
      cases hfound : snapshot? q.items k with
      | none =>
          have hk : key x ≠ k := by
            rintro rfl
            rw [snapshot?_eq_none_iff] at hfound
            exact hfound (by simpa using hwaits)
          rw [if_neg hk, Option.map_none]
      | some y =>
          rw [Option.map_some, key_of_snapshot? hfound]
          by_cases hk : key x = k
          · rw [if_pos hk, if_pos hk.symm]
          · rw [if_neg hk, if_neg (Ne.symm hk)]
  · exact snapshot?_cons x q.items k

theorem remove_fst (q : Queue α) (k : κ) : (q.remove k).1 = snapshot? q.items k := rfl

theorem snapshot?_remove {q : Queue α} (h : (q.keys : List κ).Nodup) (j k : κ) :
    snapshot? (q.remove j).2.items k = if j = k then none else snapshot? q.items k := by
  have hafter : ((q.remove j).2.keys : List κ).Nodup := by
    rw [keys_remove]
    exact h.erase j
  split
  · next hjk =>
      subst hjk
      rw [snapshot?_eq_none_iff]
      change j ∉ (q.remove j).2.keys
      rw [keys_remove]
      exact h.not_mem_erase
  · next hjk =>
      apply Option.ext
      intro x
      rw [snapshot?_eq_some_iff hafter, snapshot?_eq_some_iff h, remove, and_congr_left_iff]
      rintro rfl
      exact List.mem_eraseP_of_neg (by simpa using Ne.symm hjk)

theorem items_remove {q : Queue α} (h : (q.keys : List κ).Nodup) (k : κ) :
    (q.remove k).2.items = q.items.filter fun x => key x ≠ k := by
  have hremoved : (q.remove k).2.items ⊆ q.items := List.eraseP_subset
  have hfiltered : (q.items.filter fun x => key x ≠ k) ⊆ q.items := List.filter_subset_self _
  apply (eq_iff_map_key_eq h hremoved hfiltered).mpr
  rw [map_key_filter (fun j => decide (j ≠ k))]
  exact keys_remove_of_nodup h k

end Queue

/-! ## The rows -/

namespace Listing

def shown? (l : Listing α κ ρ) (k : κ) : Option α := snapshot? (l.rows.map Row.item) k

omit [DecidableEq κ] in
theorem map_key_rows (l : Listing α κ ρ) : (l.rows.map Row.item).map key = l.rowKeys := by
  simp [rowKeys]

omit [DecidableEq κ] in
theorem Sound.items_distinct {l : Listing α κ ρ} (h : l.Sound) :
    ((l.rows.map Row.item).map key).Nodup := by
  rw [map_key_rows]
  exact h.rows_distinct

theorem Sound.shown?_insert {l : Listing α κ ρ} (h : l.Sound) (index : Nat) (row : Row α ρ)
    (hnew : key row.item ∉ l.rowKeys) (k : κ) :
    (l.insert index row).2.shown? k = if key row.item = k then some row.item else l.shown? k := by
  rw [shown?, Listing.insert, if_neg (mt (h.mem_keys _).mp hnew)]
  dsimp only
  rw [List.map_insertIdx]
  rw [← map_key_rows] at hnew
  have hindex : min index l.rows.length ≤ (l.rows.map Row.item).length := by
    rw [List.length_map]
    exact Nat.min_le_right _ _
  exact snapshot?_insertIdx h.items_distinct hindex hnew k

theorem Sound.shown?_update {l : Listing α κ ρ} (h : l.Sound) {index : Nat} {row : Row α ρ}
    (hkey : l.rowKeys[index]? = some (key row.item)) (k : κ) :
    (l.update index row).shown? k = if key row.item = k then some row.item else l.shown? k := by
  rw [← map_key_rows] at hkey
  rw [shown?, Listing.update]
  dsimp only
  rw [List.map_set]
  exact snapshot?_set h.items_distinct hkey k

theorem Sound.shown?_eraseRow {l : Listing α κ ρ} (h : l.Sound) {index : Nat} {j k : κ}
    (hkey : l.rowKeys[index]? = some j) (hk : j ≠ k) :
    (l.eraseRow index j).shown? k = l.shown? k := by
  rw [← map_key_rows] at hkey
  rw [shown?, Listing.eraseRow]
  dsimp only
  rw [← List.eraseIdx_map]
  exact snapshot?_eraseIdx h.items_distinct hkey hk

end Listing

end FeedReader
