import FeedReader.Proofs.Feed.FocusedRow
import FeedReader.Proofs.Feed.Trigger

/-!
# The focus and the older end

The sentinel looks at how many rows lie between the focus and the older end.  A page
puts its rows there, so each one takes the focus further away, with one exception: in the
forward layout an index one past the last row goes along with the new rows.
-/

namespace FeedReader

theorem Focus.index_inserted {focus : Focus} (h : focus.ceiling = none) (index count len : Nat) :
    (focus.inserted index count len).index =
      if 0 < len ∧ index ≤ focus.index then focus.index + count else focus.index := by
  rw [inserted]
  split
  · exact raise_eq h count
  · rfl

namespace Feed

variable {α κ ρ ε : Type}

def olderDistance (f : Feed α κ ρ ε) : Nat :=
  match f.layout with
  | .forward => f.listing.size - 1 - min f.focus.index (f.listing.size - 1)
  | .reverse => min f.focus.index (f.listing.size - 1)

/-- The index is one past the last row, and older rows come in right there. -/
def PastOlderEnd (f : Feed α κ ρ ε) : Prop :=
  f.layout = .forward ∧ 0 < f.listing.size ∧ f.focus.index = f.listing.size

/-- How many more pages with new rows leave the older end within reach, at most. -/
def room (f : Feed α κ ρ ε) : Nat :=
  if f.listing.size = 0 then f.sentinelDistance + 1 else f.sentinelDistance - f.olderDistance

theorem room_le (f : Feed α κ ρ ε) : f.room ≤ f.sentinelDistance + 1 := by
  rw [room]
  split <;> omega

theorem sentinelVisible_iff (f : Feed α κ ρ ε) :
    f.sentinelVisible = true ↔ f.listing.loading = false ∧ f.trigger = .armed .sentinel ∧
      0 < f.listing.size ∧ f.olderDistance ≤ f.sentinelDistance := by
  rw [sentinelVisible, Focus.current, olderDistance]
  by_cases hsize : f.listing.size = 0
  · simp [hsize]
  · rw [if_neg hsize]
    cases f.layout with
    | forward => simp [and_assoc, Nat.pos_of_ne_zero hsize]
    | reverse => simp [and_assoc, Nat.pos_of_ne_zero hsize]

theorem PastOlderEnd.olderDistance_eq {f : Feed α κ ρ ε} (h : f.PastOlderEnd) :
    f.olderDistance = 0 := by
  obtain ⟨hlayout, hsize, hindex⟩ := h
  rw [olderDistance, hlayout]
  dsimp only
  omega

/-! ## Older rows -/

structure Grown (f : Feed α κ ρ ε) (added : Nat) (g : Feed α κ ρ ε) : Prop where
  layout : g.layout = f.layout
  sentinelDistance : g.sentinelDistance = f.sentinelDistance
  size : g.listing.size = f.listing.size + added
  focus : g.focus = f.focus.inserted
    (match f.layout with
      | .forward => f.listing.size
      | .reverse => 0)
    added f.listing.size

theorem Grown.index_eq {f g : Feed α κ ρ ε} {added : Nat} (h : Grown f added g)
    (hceiling : f.focus.ceiling = none) :
    g.focus.index =
      if 0 < f.listing.size ∧ (f.layout = .forward → f.listing.size ≤ f.focus.index)
      then f.focus.index + added else f.focus.index := by
  rw [h.focus, Focus.index_inserted hceiling]
  cases f.layout with
  | forward => simp
  | reverse => simp

theorem Grown.beginLoad {f g : Feed α κ ρ ε} {added : Nat} (h : Grown f added g) :
    Grown f added g.beginLoad.2 := by
  rw [beginLoad_eq]
  split
  · exact ⟨h.layout, h.sentinelDistance, h.size, h.focus⟩
  · exact h

theorem trigger_beginLoad (f : Feed α κ ρ ε) : f.beginLoad.2.trigger = f.trigger := by
  rw [beginLoad_eq]
  split <;> rfl

theorem olderDistance_beginLoad (f : Feed α κ ρ ε) :
    f.beginLoad.2.olderDistance = f.olderDistance := by
  rw [beginLoad_eq]
  split <;> rfl

variable [Keyed α κ]

theorem FocusFits.index_le_size {f : Feed α κ ρ ε} (h : f.FocusFits) :
    f.focus.index ≤ f.listing.size := by
  have hindex := h.index_le
  rwa [length_rowKeys] at hindex

theorem Grown.pastOlderEnd_iff {f g : Feed α κ ρ ε} {added : Nat} (h : Grown f added g)
    (hfits : f.FocusFits) : g.PastOlderEnd ↔ f.PastOlderEnd := by
  have hindex := h.index_eq hfits.unlimited
  have hle := hfits.index_le_size
  rw [PastOlderEnd, PastOlderEnd, h.layout, h.size, hindex]
  cases f.layout with
  | forward =>
      simp only [true_and, forall_const]
      split
      · omega
      · omega
  | reverse => simp

theorem Grown.olderDistance_eq {f g : Feed α κ ρ ε} {added : Nat} (h : Grown f added g)
    (hfits : f.FocusFits) (hsize : 0 < f.listing.size) (hnot : ¬f.PastOlderEnd) :
    g.olderDistance = f.olderDistance + added := by
  have hindex := h.index_eq hfits.unlimited
  have hle := hfits.index_le_size
  rw [PastOlderEnd] at hnot
  rw [olderDistance, olderDistance, h.layout, h.size, hindex]
  cases hlayout : f.layout with
  | forward =>
      have hlt : f.focus.index < f.listing.size := by
        have hne : f.focus.index ≠ f.listing.size := fun heq => hnot ⟨hlayout, hsize, heq⟩
        omega
      rw [if_neg (by simp; omega)]
      dsimp only
      omega
  | reverse =>
      rw [if_pos ⟨hsize, nofun⟩]
      dsimp only
      omega

theorem Grown.room_lt {f g : Feed α κ ρ ε} {added : Nat} (h : Grown f added g)
    (hfits : f.FocusFits) (hnot : ¬f.PastOlderEnd) (hadded : 0 < added)
    (hreach : g.olderDistance ≤ g.sentinelDistance) : g.room < f.room := by
  have hsize := h.size
  have hsame := h.sentinelDistance
  rw [room, room, if_neg (by omega)]
  split
  · omega
  · have hdistance := h.olderDistance_eq hfits (by omega) hnot
    omega

/-! ## Pages -/

variable [DecidableEq κ]

structure PageTaken (f : Feed α κ ρ ε) (page : Page α) (outcome : LoadOutcome)
    (g : Feed α κ ρ ε) : Prop where
  outcome : ∃ merged noMore, outcome = .loaded (unseen f.rowKeys page.items).length merged noMore
  grown : Grown f (unseen f.rowKeys page.items).length g
  trigger : g.trigger =
    if f.ranOut page.items.length (page.olderCursor f.layout) then .removed else f.trigger
  loading : g.listing.loading = false

theorem Step.pageTaken {f g : Feed α κ ρ ε} {request : LoadRequest} {page : Page α}
    {outcome : LoadOutcome}
    (hstep : Step f (.finishLoad request (.ok page)) (.finished outcome) g) (h : f.Faithful)
    (hawaited : f.isAwaited request = true) : PageTaken f page outcome g := by
  cases hstep with
  | discarded hnot => exact absurd (hnot.symm.trans hawaited) Bool.false_ne_true
  | @loaded _ _ tally grown _ hfold =>
      have haged := h.aged hfold
      have hrefilled := haged.refilled
      have hadded := haged.added
      have hsize : grown.listing.size = f.listing.size + tally.added := by
        rw [← length_rowKeys, ← length_rowKeys, haged.rowKeys, Layout.length_withOlder, hadded]
      refine ⟨⟨tally.merged, _, by rw [hadded]⟩, ⟨hrefilled.layout, hrefilled.sentinelDistance,
        ?_, ?_⟩, ?_, hrefilled.loading⟩
      · rw [← hadded]
        exact hsize
      · rw [← hadded]
        dsimp only [turned]
        rw [hrefilled.focus]
        rfl
      · change (if grown.ranOut _ _ then Trigger.removed else grown.trigger) = _
        rw [hrefilled.toSameOptions.ranOut_eq, hrefilled.trigger]
        rfl

end Feed

end FeedReader
