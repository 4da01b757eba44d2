import FeedReader.Proofs.Feed.Coherence

/-!
# The focused row

The focus is an index, and rows come in above it and below it.  It stays on its
row through arrivals, pages and shown queues with one exception: removing the
focused last row leaves the index one past the end, and rows that are then
added at that end carry it along.  The main statement gives the exact condition.
-/

namespace FeedReader

namespace Focus

variable {β : Type}

def pick (focus : Focus) (rows : List β) : Option β :=
  (focus.current rows.length).bind (rows[·]?)

theorem pick_eq (focus : Focus) (rows : List β) :
    focus.pick rows = rows[min focus.index (rows.length - 1)]? := by
  rw [pick, current]
  cases rows with
  | nil => rfl
  | cons row rows => rw [if_neg (by simp), Option.bind_some]

/-- No word limits the index, and it is at most one past the last of `len` rows. -/
structure Fits (focus : Focus) (len : Nat) : Prop where
  unlimited : focus.ceiling = none
  index_le : focus.index ≤ len

theorem raise_eq {focus : Focus} (h : focus.ceiling = none) (count : Nat) :
    focus.raise count = focus.index + count := by
  rw [raise, h]

theorem pick_inserted_above {focus : Focus} (hceiling : focus.ceiling = none) {rows : List β}
    (hrows : rows ≠ []) (new : List β) :
    (focus.inserted 0 new.length rows.length).pick (new ++ rows) = focus.pick rows := by
  have hlen : 0 < rows.length := List.length_pos_iff.mpr hrows
  rw [pick_eq, pick_eq, inserted, if_pos ⟨hlen, Nat.zero_le _⟩,
    raise_eq hceiling]
  have hindex : min (focus.index + new.length) ((new ++ rows).length - 1) =
      new.length + min focus.index (rows.length - 1) := by
    rw [List.length_append]
    omega
  rw [hindex, List.getElem?_append_right (Nat.le_add_right _ _), Nat.add_sub_cancel_left]

theorem pick_inserted_below_iff {focus : Focus} {rows : List β} (hfits : focus.Fits rows.length)
    (hrows : rows ≠ []) {new : List β} (hnodup : (rows ++ new).Nodup) :
    (focus.inserted rows.length new.length rows.length).pick (rows ++ new) = focus.pick rows ↔
      ¬(focus.index = rows.length ∧ new ≠ []) := by
  have hlen : 0 < rows.length := List.length_pos_iff.mpr hrows
  rw [pick_eq, pick_eq, inserted]
  by_cases hpast : focus.index = rows.length
  · -- Both indices are cut back to the last row of their list.
    have hafter : min (focus.raise new.length) ((rows ++ new).length - 1) =
        rows.length + new.length - 1 := by
      rw [raise_eq hfits.unlimited, List.length_append]
      omega
    have hbefore : min focus.index (rows.length - 1) = rows.length - 1 := by omega
    have hlast : rows[rows.length - 1]? = (rows ++ new)[rows.length - 1]? :=
      (List.getElem?_append_left (by omega)).symm
    rw [if_pos ⟨hlen, Nat.le_of_eq hpast.symm⟩, hafter, hbefore, hlast]
    cases new with
    | nil => simp
    | cons first rest =>
        have hlt : rows.length + (first :: rest).length - 1 <
            (rows ++ first :: rest).length := by
          rw [List.length_append, List.length_cons]
          omega
        have hne : rows.length + (first :: rest).length - 1 ≠ rows.length - 1 := by
          rw [List.length_cons]
          omega
        simp only [hpast, ne_eq, List.cons_ne_nil, not_false_eq_true, and_self, not_true_eq_false,
          iff_false]
        intro hsame
        exact hne ((List.getElem?_inj hlt hnodup).mp hsame)
  · have hlt : focus.index < rows.length := Nat.lt_of_le_of_ne hfits.index_le hpast
    have hbefore : min focus.index (rows.length - 1) = focus.index := by omega
    have hafter : min focus.index ((rows ++ new).length - 1) = focus.index := by
      rw [List.length_append]
      omega
    rw [if_neg (by omega), hafter, hbefore, List.getElem?_append_left hlt]
    simp [hpast]

theorem Fits.inserted {focus : Focus} {len : Nat} (h : focus.Fits len) (index count : Nat) :
    (focus.inserted index count len).Fits (len + count) := by
  rw [Focus.inserted]
  split
  · refine ⟨h.unlimited, ?_⟩
    change focus.raise count ≤ len + count
    rw [raise_eq h.unlimited]
    exact Nat.add_le_add_right h.index_le count
  · exact ⟨h.unlimited, Nat.le_trans h.index_le (Nat.le_add_right _ _)⟩

theorem Fits.removed {focus : Focus} {len index : Nat} (h : focus.Fits len)
    (hindex : index < len) : (focus.removed index).Fits (len - 1) := by
  have hle := h.index_le
  rw [Focus.removed]
  split
  · refine ⟨h.unlimited, ?_⟩
    change focus.index - 1 ≤ len - 1
    omega
  · exact ⟨h.unlimited, by omega⟩

theorem Fits.navigate {focus : Focus} {len : Nat} (h : focus.Fits len) (nav : Nav) :
    (focus.navigate nav len).2.Fits len := by
  rw [Focus.navigate]
  split
  · exact ⟨h.unlimited, Nat.zero_le _⟩
  · refine ⟨h.unlimited, ?_⟩
    dsimp only
    cases nav <;> dsimp only <;> omega

end Focus

namespace Feed

variable {α κ ρ ε : Type} [Keyed α κ] [DecidableEq κ]

def focusedKey (f : Feed α κ ρ ε) : Option κ := f.focusedItem.map key

omit [DecidableEq κ] in
theorem focusedKey_eq {f : Feed α κ ρ ε} (hlive : f.tornDown = false) :
    f.focusedKey = f.focus.pick f.rowKeys := by
  have hitem : ∀ i, (f.item? i).map key = f.rowKeys[i]? := by
    intro i
    rw [← map_key_items, List.getElem?_map, item?]
  rw [focusedKey, focusedItem, focused, hlive, if_neg Bool.false_ne_true, Focus.pick,
    Option.map_bind]
  have hsize := f.length_rowKeys
  rw [hsize]
  exact congrArg _ (funext hitem)

/-! ## The index stays in reach -/

def FocusFits (f : Feed α κ ρ ε) : Prop := f.focus.Fits f.rowKeys.length

theorem FocusFits.start {seed : Seed α} {options : FeedOptions α ρ} {f : Feed α κ ρ ε}
    (h : Feed.start seed options = .ok f) : f.FocusFits := by
  rw [FocusFits, (started h).focus]
  exact ⟨rfl, Nat.zero_le _⟩

theorem FocusFits.step {f g : Feed α κ ρ ε} (h : f.FocusFits) (hfaithful : f.Faithful)
    {op : Op α κ ε} {answer : Answer α} (hstep : Step f op answer g) : g.FocusFits := by
  have hsize := f.length_rowKeys
  cases hstep with
  | refused | began | discarded | failed | late | waited | nothingToShow | kept | stuck
  | releasedAtOnce | attached | alreadyDown => exact h
  | @loaded _ page tally grown hawaited hfold =>
      have haged := hfaithful.aged hfold
      have hlen : grown.rowKeys.length = f.listing.size + tally.added := by
        rw [haged.rowKeys, Layout.length_withOlder, haged.added, hsize]
      change (grown.focus.inserted _ _ _).Fits grown.rowKeys.length
      rw [hlen, haged.refilled.focus]
      exact Focus.Fits.inserted (hsize ▸ h) _ _
  | @showed added grown hlive hsome hfold =>
      have hrenewed := hfaithful.renewed hfold
      have hlen : grown.rowKeys.length = f.listing.size + added := by
        rw [hrenewed.rowKeys, Layout.length_withNewer, hrenewed.added, hsize]
      change (grown.focus.inserted _ _ _).Fits grown.rowKeys.length
      rw [hlen, hrenewed.refilled.focus]
      exact Focus.Fits.inserted (hsize ▸ h) _ _
  | @merged item index hlive hkey =>
      change f.focus.Fits (f.listing.update index ⟨item, f.render item⟩).rowKeys.length
      rw [rowKeys_refreshed hkey]
      exact h
  | @dropped k index _ hkey hrow =>
      have hlt : index < f.rowKeys.length := (List.getElem?_eq_some_iff.mp hkey).1
      have hlen : (f.listing.eraseRow index k).rowKeys.length = f.rowKeys.length - 1 := by
        rw [hfaithful.sound.rowKeys_eraseRow hkey]
        exact List.length_erase_of_mem (List.mem_of_getElem? hkey)
      change (f.focus.removed index).Fits (f.listing.eraseRow index k).rowKeys.length
      rw [hlen]
      exact Focus.Fits.removed h hlt
  | @moved nav hlive =>
      have hfits : f.focus.Fits f.listing.size := hsize ▸ (h : f.focus.Fits f.rowKeys.length)
      change (f.focus.navigate nav f.listing.size).2.Fits f.rowKeys.length
      rw [hsize]
      exact hfits.navigate nav
  | wentDown hlive => exact ⟨h.unlimited, Nat.zero_le _⟩

theorem Reachable.focusFits {f : Feed α κ ρ ε} (h : Reachable f) : f.FocusFits := by
  induction h with
  | start hstart => exact .start hstart
  | perform op hf ih => exact ih.step hf.faithful (hf.step op)

/-! ## The key of the focused row -/

omit [DecidableEq κ] in
theorem length_items (f : Feed α κ ρ ε) : f.items.length = f.rowKeys.length := by
  rw [← map_key_items, List.length_map]

theorem Step.focusedKey_finishLoad_iff {f g : Feed α κ ρ ε} {request : LoadRequest}
    {result : Except ε (Page α)} {answer : Answer α}
    (hstep : Step f (.finishLoad request result) answer g) (h : f.Faithful)
    (hfits : f.FocusFits) (hlive : f.tornDown = false) (hrows : f.rowKeys ≠ []) :
    g.focusedKey = f.focusedKey ↔
      ¬(f.focus.index = f.rowKeys.length ∧ f.layout = .forward ∧
        f.rowKeys.length < g.rowKeys.length) := by
  cases hstep with
  | discarded => simp
  | failed hawaited =>
      have hsize : ¬f.rowKeys.length < f.rowKeys.length := Nat.lt_irrefl _
      exact iff_of_true rfl (fun hpast => hsize hpast.2.2)
  | @loaded _ page tally grown hawaited hfold =>
      have haged := h.aged hfold
      have hsize := f.length_rowKeys.symm
      have hgrown : grown.tornDown = false := haged.refilled.tornDown.trans hlive
      have hfocus : grown.focus = f.focus := haged.refilled.focus
      have hnodup := haged.faithful.sound.rows_distinct
      rw [focusedKey_eq hlive, focusedKey_eq]
      swap
      · exact hgrown
      change (grown.focus.inserted _ tally.added f.listing.size).pick grown.rowKeys = _ ↔
        ¬(_ ∧ _ ∧ _ < grown.rowKeys.length)
      change grown.rowKeys.Nodup at hnodup
      rw [haged.rowKeys] at hnodup ⊢
      rw [hfocus, hsize, haged.added, Layout.length_withOlder]
      cases hlayout : f.layout with
      | forward =>
          rw [hlayout] at hnodup
          refine (Focus.pick_inserted_below_iff hfits hrows hnodup).trans (not_congr ?_)
          simp [List.length_pos_iff]
      | reverse =>
          have hkept := Focus.pick_inserted_above hfits.unlimited hrows
            (unseen f.rowKeys page.items)
          simp [Layout.withOlder, hkept]

theorem Step.focusedKey_flush_iff {f g : Feed α κ ρ ε} {answer : Answer α}
    (hstep : Step f .flush answer g) (h : f.Faithful) (hfits : f.FocusFits)
    (hlive : f.tornDown = false) (hrows : f.rowKeys ≠ []) :
    g.focusedKey = f.focusedKey ↔
      ¬(f.focus.index = f.rowKeys.length ∧ f.layout = .reverse ∧ f.queueKeys ≠ []) := by
  cases hstep with
  | nothingToShow hnone =>
      have hempty : f.queueKeys = [] := by
        rcases hnone with hdown | hempty
        · rw [hlive] at hdown
          contradiction
        · exact hempty
      simp [hempty]
  | @showed added grown _ hsome hfold =>
      have hrenewed := h.renewed hfold
      have hsize := f.length_rowKeys.symm
      have hgrown : grown.tornDown = false := hrenewed.refilled.tornDown.trans hlive
      have hfocus : grown.focus = f.focus := hrenewed.refilled.focus
      have hnodup := hrenewed.faithful.sound.rows_distinct
      rw [focusedKey_eq hlive, focusedKey_eq]
      swap
      · exact hgrown
      change (grown.focus.inserted _ added f.listing.size).pick grown.rowKeys = _ ↔ _
      change grown.rowKeys.Nodup at hnodup
      rw [hrenewed.rowKeys] at hnodup ⊢
      rw [hfocus, hsize, hrenewed.added]
      cases hlayout : f.layout with
      | forward =>
          have hkept := Focus.pick_inserted_above hfits.unlimited hrows f.queueKeys
          simp [Layout.withNewer, hkept]
      | reverse =>
          rw [hlayout] at hnodup
          have hbelow := Focus.pick_inserted_below_iff hfits hrows hnodup
          rw [List.length_reverse] at hbelow
          refine hbelow.trans (not_congr ?_)
          simp

theorem Step.focusedKey_enqueue {f g : Feed α κ ρ ε} {item : α} {answer : Answer α}
    (hstep : Step f (.enqueue item) answer g) (hlive : f.tornDown = false) :
    g.focusedKey = f.focusedKey := by
  cases hstep with
  | late | waited => rfl
  | @merged _ index _ hkey =>
      rw [focusedKey_eq hlive, focusedKey_eq, ← rowKeys_refreshed hkey]
      · rfl
      · exact hlive

/--
A load, a flush and an arrival keep the focus on its row, but for one case: the
index is past the last row, and rows come in below it.
-/
theorem focusedKey_kept_iff {f : Feed α κ ρ ε} (h : Reachable f) (hlive : f.tornDown = false)
    (hrows : f.items ≠ []) :
    (∀ request result, (f.finishLoad request result).2.focusedKey = f.focusedKey ↔
      ¬(f.focus.index = f.items.length ∧ f.layout = .forward ∧
        f.items.length < (f.finishLoad request result).2.items.length)) ∧
    (f.flush.2.focusedKey = f.focusedKey ↔
      ¬(f.focus.index = f.items.length ∧ f.layout = .reverse ∧ f.queued ≠ [])) ∧
    ∀ item, (f.enqueue item).2.focusedKey = f.focusedKey := by
  have hfaithful := h.faithful
  have hkeys : f.rowKeys ≠ [] := by
    rw [← map_key_items]
    simpa using hrows
  refine ⟨?_, ?_, ?_⟩
  · intro request result
    rw [length_items, length_items]
    exact (h.step (.finishLoad request result)).focusedKey_finishLoad_iff hfaithful h.focusFits
      hlive hkeys
  · have hflush := (h.step .flush).focusedKey_flush_iff hfaithful h.focusFits hlive hkeys
    rw [← map_key_queued, ne_eq, List.map_eq_nil_iff] at hflush
    rw [length_items]
    exact hflush
  · intro item
    exact (h.step (.enqueue item)).focusedKey_enqueue hlive

theorem focusedKey_kept_by_flush :
    let f := snapshotFeed (.bare [⟨1, 0⟩, ⟨2, 0⟩, ⟨3, 0⟩]) .reverse
    let g := f.after [.navigate .last, .remove 2, .enqueue ⟨4, 0⟩]
    Reachable g ∧ g.tornDown = false ∧ g.items ≠ [] ∧ g.flush.2.focusedKey = g.focusedKey := by
  have h := (Reachable.start (start_snapshotFeed (.bare [⟨1, 0⟩, ⟨2, 0⟩, ⟨3, 0⟩]) .reverse)).after
    [.navigate .last, .remove 2, .enqueue ⟨4, 0⟩]
  refine ⟨h, by decide, by decide, ?_⟩
  exact (focusedKey_kept_iff h (by decide) (by decide)).2.1.mpr (by decide)

/-- The focused last row goes, its neighbour has the focus, and then a new last row takes it. -/
theorem focusedKey_carried_past_the_end :
    (let f := snapshotFeed (.bare [⟨1, 0⟩, ⟨2, 0⟩, ⟨3, 0⟩]) .reverse
      let g := f.after [.navigate .last, .remove 3, .enqueue ⟨4, 0⟩]
      Reachable g ∧ g.tornDown = false ∧ g.focusedKey = some 2 ∧
        g.flush.2.focusedKey = some 4) ∧
    let f := snapshotFeed (.page ⟨[⟨1, 0⟩, ⟨2, 0⟩], none, some "a"⟩) .forward
    let g := f.after [.navigate .last, .remove 2, .beginLoad]
    Reachable g ∧ g.tornDown = false ∧ g.focusedKey = some 1 ∧
      (g.finishLoad ⟨some "a", 2, 1⟩ (.ok ⟨[⟨3, 0⟩], none, none⟩)).2.focusedKey = some 3 := by
  refine ⟨⟨?_, by decide, by decide, by decide⟩, ?_, by decide, by decide, by decide⟩
  · exact (Reachable.start (start_snapshotFeed _ _)).after _
  · exact (Reachable.start (start_snapshotFeed _ _)).after _

end Feed

end FeedReader
