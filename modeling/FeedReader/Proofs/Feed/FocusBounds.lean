import FeedReader.Proofs.Feed.FocusedRow
import FeedReader.Proofs.Listing.FocusArithmetic

/-!
# The focus of a feed keeps to its rows

However a focus is used, its arithmetic keeps to words.  In a feed the index is besides never more
than one past the last row, so the distance to the end of the list is never below zero, and where
the rows can be counted in words the index is nowhere near the end of its word.
-/

namespace FeedReader

namespace Focus

def inWord (f : Focus) : Focus := { f with ceiling := some wordMax }

theorem Fits.inserted_inWord {f : Focus} {len count : Nat} (h : f.Fits len)
    (hrows : len + count < UInt64.size) (at_ : Nat) :
    f.inWord.inserted at_ count len = (f.inserted at_ count len).inWord := by
  have hle := h.index_le
  have hraise : f.inWord.raise count = f.raise count := by
    rw [raise_eq h.unlimited]
    exact Nat.min_eq_left (by simp only [inWord, wordMax]; omega)
  rw [Focus.inserted, Focus.inserted, hraise, apply_ite inWord]
  rfl

end Focus

namespace Feed

variable {α κ ρ ε : Type}

/-- As `sentinelVisible`, as long as no difference is below zero. -/
def sentinelVisible? (f : Feed α κ ρ ε) : Option Bool :=
  if f.listing.loading || f.trigger ≠ .armed .sentinel then some false
  else do
    match ← f.focus.current? f.listing.size with
    | none => return false
    | some index =>
        match f.layout with
        | .forward =>
            let last ← Word.sub? f.listing.size 1
            let distance ← Word.sub? last index
            return distance ≤ f.sentinelDistance
        | .reverse => return index ≤ f.sentinelDistance

theorem sentinelVisible?_eq (f : Feed α κ ρ ε) :
    f.sentinelVisible? = some f.sentinelVisible := by
  have hrow := Focus.isRow_current f.focus f.listing.size
  rw [sentinelVisible?, sentinelVisible, Focus.current?_eq]
  by_cases hready : f.listing.loading = false ∧ f.trigger = .armed .sentinel
  · obtain ⟨hidle, harmed⟩ := hready
    cases hcurrent : f.focus.current f.listing.size with
    | none => simp [hidle, harmed]
    | some index =>
        rw [hcurrent] at hrow
        have hindex : index < f.listing.size := hrow
        have hlast := Word.sub?_of_le (Nat.zero_lt_of_lt hindex)
        have hdistance := Word.sub?_of_le (Nat.le_sub_one_of_lt hindex)
        cases f.layout with
        | forward => simp [hidle, harmed, hlast, hdistance]
        | reverse => simp [hidle, harmed]
  · have hguard : (f.listing.loading || decide (f.trigger ≠ .armed .sentinel)) = true := by
      simpa [imp_iff_not_or] using hready
    rw [if_pos hguard]
    cases hloading : f.listing.loading with
    | true => rfl
    | false => simp_all

variable [Keyed α κ] [DecidableEq κ]

/--
A focus in a word may be told any words in any order: its index stays a word, no sum and no
difference leaves its range, and each answer is a row, if there are rows.  In a feed the index is at
most the number of rows and the distance to the end of the list is a number; rows that come in move
the index as if no word limited it, as long as a word can count them.
-/
theorem focus_in_bounds :
    (∀ ops : List Focus.Op,
      let focus := Focus.after ops
      focus.index < UInt64.size ∧
      (∀ op, focus.perform? op = some (focus.perform op)) ∧
      ∀ len : UInt64, Focus.IsRow len.toNat (focus.current len.toNat) ∧
        ∀ nav, Focus.IsRow len.toNat (focus.navigate nav len.toNat).1) ∧
    ∀ f : Feed α κ ρ ε, Reachable f →
      f.focus.index ≤ f.items.length ∧
      (f.items = [] → f.focus.index = 0) ∧
      f.sentinelVisible? = some f.sentinelVisible ∧
      ∀ at_ count, f.items.length + count < UInt64.size →
        f.focus.inWord.inserted at_ count f.items.length =
          (f.focus.inserted at_ count f.items.length).inWord := by
  refine ⟨?_, ?_⟩
  · intro ops focus
    refine ⟨(Focus.inWord_after ops).index_lt, focus.perform?_eq, ?_⟩
    intro len
    exact ⟨focus.isRow_current len.toNat, fun nav => focus.isRow_navigate nav len.toNat⟩
  · intro f h
    have hfits : f.focus.Fits f.items.length := by
      rw [length_items]
      exact h.focusFits
    have hle := hfits.index_le
    refine ⟨hle, ?_, sentinelVisible?_eq f, ?_⟩
    · intro hitems
      rw [hitems] at hle
      exact Nat.le_zero.mp hle
    · intro at_ count hrows
      exact hfits.inserted_inWord hrows at_

theorem focus_in_bounds_past_the_end :
    let focus := Focus.after [.navigate .last (-1), .inserted 0 (-1) (-1)]
    let f := snapshotFeed (.page ⟨[⟨1, 0⟩, ⟨2, 0⟩], none, some "a"⟩) .forward
    let g := f.after [.navigate .last, .remove 2]
    focus.index = Focus.wordMax ∧
      focus.perform? (.navigate .next (-1)) =
        some (some (Focus.wordMax - 1), { focus with index := Focus.wordMax - 1 }) ∧
      Reachable g ∧ g.focus.index = 1 ∧ g.items.length = 1 ∧ g.focus.index ≤ g.items.length ∧
      g.sentinelVisible? = some true := by
  intro focus f g
  obtain ⟨hruns, hfeeds⟩ := @focus_in_bounds Snapshot Nat Nat Unit _ _
  have hreachable : Reachable g := (Reachable.start (start_snapshotFeed _ _)).after _
  obtain ⟨-, hperform, -⟩ := hruns [.navigate .last (-1), .inserted 0 (-1) (-1)]
  obtain ⟨hle, -, hvisible, -⟩ := hfeeds g hreachable
  refine ⟨by decide, ?_, hreachable, by decide, by decide, hle, hvisible.trans (by decide)⟩
  exact (hperform (.navigate .next (-1))).trans (by decide)

end Feed

end FeedReader
