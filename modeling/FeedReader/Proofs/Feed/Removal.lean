import FeedReader.Proofs.Feed.FocusedRow
import FeedReader.Proofs.Feed.Teardown

/-!
# Removing a row

The focus is an index that may stand one past the last row, left there by earlier removals.
The main statement is that a removal takes its row and nothing else: the other rows and all that
waits stay as they are, and the focus stays on its row.  Only if that was the row to go, it
passes to the next row, or to the last one if there is no next.
-/

namespace FeedReader

namespace Focus

variable {β : Type}

/-! ## The index -/

theorem index_removed (focus : Focus) (index : Nat) :
    (focus.removed index).index = if index < focus.index then focus.index - 1 else focus.index := by
  rw [removed]
  split
  · rfl
  · rfl

theorem pick_eq_some_iff (focus : Focus) {above below : List β} {x : β}
    (hnodup : (above ++ x :: below).Nodup) :
    focus.pick (above ++ x :: below) = some x ↔
      min focus.index (above.length + below.length) = above.length := by
  have hat : (above ++ x :: below)[above.length]? = some x := by simp
  have hlen : (above ++ x :: below).length = above.length + below.length + 1 := by
    rw [List.length_append, List.length_cons, Nat.add_assoc]
  rw [pick_eq, hlen, Nat.add_sub_cancel, ← hat]
  exact List.getElem?_inj (by omega) hnodup

theorem pick_removed_of_eq {focus : Focus} {above below : List β}
    (hstand : min focus.index (above.length + below.length) = above.length) :
    (focus.removed above.length).pick (above ++ below) = below.head?.or above.getLast? := by
  rw [pick_eq, index_removed, List.length_append]
  cases below with
  | nil =>
      have hindex : min (if above.length < focus.index then focus.index - 1 else focus.index)
          (above.length + ([] : List β).length - 1) = above.length - 1 := by
        simp only [List.length_nil, Nat.add_zero] at hstand ⊢
        split <;> omega
      rw [hindex, List.append_nil, List.head?_nil, Option.none_or, List.getLast?_eq_getElem?]
  | cons next below =>
      have hindex : min (if above.length < focus.index then focus.index - 1 else focus.index)
          (above.length + (next :: below).length - 1) = above.length := by
        simp only [List.length_cons] at hstand ⊢
        split <;> omega
      rw [hindex]
      simp

theorem pick_removed_of_ne {focus : Focus} {above below : List β} (x : β)
    (hstand : min focus.index (above.length + below.length) ≠ above.length) :
    (focus.removed above.length).pick (above ++ below) = focus.pick (above ++ x :: below) := by
  rw [pick_eq, pick_eq, index_removed, List.length_append, List.length_append, List.length_cons,
    Nat.add_succ_sub_one]
  by_cases habove : focus.index < above.length
  · rw [if_neg (by omega), Nat.min_eq_left (by omega), Nat.min_eq_left (by omega),
      List.getElem?_append_left habove, List.getElem?_append_left habove]
  · have hindex : min (focus.index - 1) (above.length + below.length - 1) =
        min focus.index (above.length + below.length) - 1 := by omega
    have hbelow : min focus.index (above.length + below.length) - above.length =
        min focus.index (above.length + below.length) - 1 - above.length + 1 := by omega
    rw [if_pos (by omega), hindex, List.getElem?_append_right (by omega),
      List.getElem?_append_right (by omega), hbelow, List.getElem?_cons_succ]

end Focus

namespace Feed

variable {α κ ρ ε : Type} [Keyed α κ] [DecidableEq κ]

/-! ## The row -/

/-- What a removal leaves, seen from the rows around the one that went. -/
def without (f : Feed α κ ρ ε) (above below : List (Row α ρ)) (k : κ) : Feed α κ ρ ε :=
  { f with
    listing := { f.listing with rows := above ++ below, keys := f.listing.keys.erase k }
    focus := f.focus.removed above.length }

theorem remove_cases {f : Feed α κ ρ ε} (h : f.listing.Sound) (k : κ) :
    (k ∉ f.rowKeys ∧ f.remove k = (none, f)) ∨
      ∃ above row below, f.listing.rows = above ++ row :: below ∧ key row.item = k ∧
        f.remove k = (some row.item, f.without above below k) := by
  rcases h.remove_cases k with ⟨hk, hremove⟩ | ⟨index, row, hkey, hrow, hremove⟩
  · refine .inl ⟨hk, ?_⟩
    rw [remove, hremove]
  · obtain ⟨above, below, hrows, rfl, herase⟩ := exists_split_of_getElem? hrow
    have hitem : key row.item = k := by
      rw [Listing.rowKeys, List.getElem?_map, hrow] at hkey
      exact Option.some.inj hkey
    refine .inr ⟨above, row, below, hrows, hitem, ?_⟩
    rw [remove, hremove, without, ← herase]
    rfl

theorem Faithful.focusedKey_without {f : Feed α κ ρ ε} (h : f.Faithful)
    (hlive : f.tornDown = false) {above below : List (Row α ρ)} {row : Row α ρ}
    (hrows : f.listing.rows = above ++ row :: below) :
    let keyOf : Row α ρ → κ := fun row => key row.item
    (f.without above below (keyOf row)).focusedKey =
      if f.focusedKey = some (keyOf row) then (below.head?.or above.getLast?).map keyOf
      else f.focusedKey := by
  intro keyOf
  have hkeys : f.rowKeys = above.map keyOf ++ keyOf row :: below.map keyOf := by
    rw [rowKeys, Listing.rowKeys, hrows, List.map_append, List.map_cons]
  have hleft : (f.without above below (keyOf row)).rowKeys =
      above.map keyOf ++ below.map keyOf := List.map_append
  have hfocus : (f.without above below (keyOf row)).focus =
      f.focus.removed (above.map keyOf).length := by
    rw [List.length_map]
    rfl
  have hnodup : (above.map keyOf ++ keyOf row :: below.map keyOf).Nodup :=
    hkeys ▸ h.sound.rows_distinct
  have hstand := Focus.pick_eq_some_iff f.focus hnodup
  rw [focusedKey_eq hlive, focusedKey_eq, hleft, hfocus, hkeys]
  · split
    · next heq =>
        rw [Focus.pick_removed_of_eq (hstand.mp heq), List.head?_map, List.getLast?_map,
          ← Option.map_or]
    · next hne => exact Focus.pick_removed_of_ne _ (mt hstand.mpr hne)
  · exact hlive

theorem Reachable.live_of_rows {f : Feed α κ ρ ε} (h : Reachable f)
    (hrows : f.listing.rows ≠ []) : f.tornDown = false := by
  by_contra hdown
  rw [Bool.not_eq_false] at hdown
  exact hrows (h.gone hdown).rows

/--
A key without a row is ignored.  Any other one takes its row along and nothing else: the focus
stays on its row, and if that is the one that goes, it passes to the row below it, or to the last
row if there is none below.
-/
theorem removal_keeps_the_rest {f : Feed α κ ρ ε} (h : Reachable f) (k : κ) :
    (k ∉ f.items.map key → f.remove k = (none, f)) ∧
    (k ∈ f.items.map key → ∃ above row below,
      f.listing.rows = above ++ row :: below ∧ key row.item = k ∧
      f.remove k = (some row.item, { f with
        listing := { f.listing with rows := above ++ below, keys := f.listing.keys.erase k }
        focus := f.focus.removed above.length }) ∧
      (f.focusedKey ≠ some k → (f.remove k).2.focusedKey = f.focusedKey) ∧
      (f.focusedKey = some k → (f.remove k).2.focusedKey =
        (below.head?.or above.getLast?).map fun row => key row.item)) := by
  rw [map_key_items]
  rcases remove_cases h.faithful.sound k with
    ⟨hk, hremove⟩ | ⟨above, row, below, hrows, rfl, hremove⟩
  · exact ⟨fun _ => hremove, fun hrow => absurd hrow hk⟩
  · have hrow : key row.item ∈ f.rowKeys := by
      rw [rowKeys, Listing.rowKeys, hrows]
      simp
    have hlive := h.live_of_rows (by simp [hrows])
    have hfocused := h.faithful.focusedKey_without hlive hrows
    dsimp only at hfocused
    refine ⟨fun hk => absurd hrow hk, fun _ => ⟨above, row, below, hrows, rfl, hremove, ?_, ?_⟩⟩
    · intro hne
      rw [hremove, hfocused, if_neg hne]
    · intro heq
      rw [hremove, hfocused, if_pos heq]

theorem removal_keeps_the_rest_past_the_end :
    let f := (snapshotFeed (.bare [⟨1, 0⟩, ⟨2, 0⟩, ⟨3, 0⟩, ⟨4, 0⟩]) .forward).after
      [.navigate .last, .remove 4, .enqueue ⟨9, 0⟩]
    Reachable f ∧ f.focus.index = f.items.length ∧ f.focusedKey = some 3 ∧
      9 ∈ f.queued.map key ∧ f.remove 9 = (none, f) ∧
      1 ∈ f.items.map key ∧ (f.remove 1).2.focusedKey = some 3 ∧
      (f.remove 3).2.focusedKey = some 2 := by
  intro f
  have h : Reachable f := (Reachable.start (start_snapshotFeed _ _)).after _
  have hfocused : f.focusedKey = some 3 := by decide
  have hrow : 1 ∈ f.items.map key := by decide
  have hwaiting := (removal_keeps_the_rest h 9).1 (by decide)
  obtain ⟨above, row, below, -, -, -, hkept, -⟩ := (removal_keeps_the_rest h 1).2 hrow
  have hother := hkept (by rw [hfocused]; decide)
  exact ⟨h, by decide, hfocused, by decide, hwaiting, hrow, hother.trans hfocused, by decide⟩

end Feed

end FeedReader
