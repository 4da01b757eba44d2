import FeedReader.Proofs.Feed.Coherence

/-!
# When the trigger is gone

Four flags say whether older items may be asked for, and the start, the loads and
teardown each write some of them.  The main statement ties them together: the
trigger is gone exactly if the list ran out or the feed is torn down, a load is
under way only while neither holds, and neither is ever taken back.
-/

namespace FeedReader.Feed

variable {α κ ρ ε : Type} [Keyed α κ] [DecidableEq κ]

/-! ## Asking for more -/

omit [Keyed α κ] [DecidableEq κ] in
theorem beginLoad_eq_some_iff (f : Feed α κ ρ ε) (request : LoadRequest) :
    f.beginLoad.1 = some request ↔ f.ready = true ∧ request = f.nextRequest := by
  rw [beginLoad_eq]
  split
  · next hready => simp [hready, eq_comm]
  · next hready => simp [hready]

theorem Reachable.loadMore {f : Feed α κ ρ ε} (h : Reachable f)
    (source : Option String → Nat → Except ε (Page α)) : Reachable (f.loadMore source).2 := by
  have hbegun : Reachable f.beginLoad.2 := h.perform .beginLoad
  rw [Feed.loadMore]
  split
  · next begun hnone =>
      rw [hnone] at hbegun
      exact hbegun
  · next request begun hsome =>
      rw [hsome] at hbegun
      exact hbegun.perform (.finishLoad request (source request.cursor request.count))

/-! ## The flags -/

structure Latched (f : Feed α κ ρ ε) : Prop where
  removed_iff : f.trigger = .removed ↔ f.listing.noMore = true ∨ f.tornDown = true
  busy : f.listing.loading = true → f.listing.noMore = false ∧ f.tornDown = false

omit [Keyed α κ] [DecidableEq κ] in
theorem Latched.armed_iff {f : Feed α κ ρ ε} (h : f.Latched) :
    (∃ mode, f.trigger = .armed mode) ↔ f.listing.noMore = false ∧ f.tornDown = false := by
  have hremoved : f.trigger ≠ .removed ↔ f.listing.noMore = false ∧ f.tornDown = false := by
    rw [ne_eq, h.removed_iff, not_or, Bool.not_eq_true, Bool.not_eq_true]
  rw [← hremoved]
  cases f.trigger with
  | armed mode => simp
  | removed => simp

omit [Keyed α κ] [DecidableEq κ] in
theorem Latched.ready_iff {f : Feed α κ ρ ε} (h : f.Latched) :
    f.ready = true ↔ (∃ mode, f.trigger = .armed mode) ∧ f.listing.loading = false := by
  have hremoved : f.trigger ≠ .removed ↔ ∃ mode, f.trigger = .armed mode := by
    cases f.trigger with
    | armed mode => simp
    | removed => simp
  have harmed := h.armed_iff
  simp only [ready, Bool.and_eq_true, Bool.not_eq_true', decide_eq_true_eq]
  tauto

omit [Keyed α κ] [DecidableEq κ] in
theorem Latched.congr {f g : Feed α κ ρ ε} (h : f.Latched) (htrigger : g.trigger = f.trigger)
    (hnoMore : g.listing.noMore = f.listing.noMore)
    (hloading : g.listing.loading = f.listing.loading) (hdown : g.tornDown = f.tornDown) :
    g.Latched := by
  obtain ⟨hremoved, hbusy⟩ := h
  rw [← htrigger, ← hnoMore, ← hdown] at hremoved
  rw [← hloading, ← hnoMore, ← hdown] at hbusy
  exact ⟨hremoved, hbusy⟩

omit [Keyed α κ] [DecidableEq κ] in
theorem Latched.idle {f : Feed α κ ρ ε} (h : f.Latched) : f.idle.Latched :=
  ⟨h.removed_iff, fun hbusy => absurd hbusy Bool.false_ne_true⟩

omit [Keyed α κ] [DecidableEq κ] in
theorem Latched.refilled {f g : Feed α κ ρ ε} (h : f.Latched) (hrefilled : Refilled f g) :
    g.Latched :=
  h.congr hrefilled.trigger hrefilled.noMore hrefilled.loading hrefilled.tornDown

omit [Keyed α κ] [DecidableEq κ] in
theorem Latched.turned {f : Feed α κ ρ ε} (h : f.Latched) (hidle : f.listing.loading = false)
    (received : Nat) (cursor : Option String) : (f.turned received cursor).Latched := by
  constructor
  · dsimp only [Feed.turned]
    cases f.ranOut received cursor with
    | false => simpa using h.removed_iff
    | true => simp
  · intro hbusy
    exact absurd (hidle.symm.trans hbusy) Bool.false_ne_true

/-! ## One step -/

theorem Latched.step {f g : Feed α κ ρ ε} (h : f.Latched) (hfaithful : f.Faithful)
    {op : Op α κ ε} {answer : Answer α} (hstep : Step f op answer g) : g.Latched := by
  cases hstep with
  | refused | discarded | late | nothingToShow | kept | stuck | alreadyDown => exact h
  | merged | waited | dropped | moved | releasedAtOnce | attached => exact h.congr rfl rfl rfl rfl
  | began hready =>
      have harmed := h.armed_iff.mp (h.ready_iff.mp hready).1
      exact ⟨h.removed_iff, fun _ => harmed⟩
  | failed _ => exact h.idle.congr rfl rfl rfl rfl
  | loaded _ hfold =>
      have hrefilled := (hfaithful.aged hfold).refilled
      have hgrown := h.idle.refilled hrefilled
      apply Latched.turned
      · exact hgrown.congr rfl rfl rfl rfl
      · exact hrefilled.loading
  | showed _ _ hfold =>
      have hemptied : f.emptied.Latched := h.congr rfl rfl rfl rfl
      exact (hemptied.refilled (hfaithful.renewed hfold).refilled).congr rfl rfl rfl rfl
  | wentDown _ => exact ⟨by simp, fun hbusy => absurd hbusy Bool.false_ne_true⟩

theorem Step.noMore {f g : Feed α κ ρ ε} {op : Op α κ ε} {answer : Answer α}
    (hstep : Step f op answer g) (h : f.Faithful) (hnoMore : f.listing.noMore = true) :
    g.listing.noMore = true := by
  cases hstep with
  | loaded _ hfold =>
      have hgrown := (h.aged hfold).refilled.noMore.trans hnoMore
      dsimp only [turned]
      rw [hgrown, Bool.true_or]
  | showed _ _ hfold => exact (h.renewed hfold).refilled.noMore.trans hnoMore
  | _ => exact hnoMore

/-! ## Whole runs -/

theorem Latched.start {seed : Seed α} {options : FeedOptions α ρ} {f : Feed α κ ρ ε}
    (h : Feed.start seed options = .ok f) : f.Latched := by
  obtain ⟨render, -, -, rfl⟩ := (start_eq_ok_iff seed options f).mp h
  have hseeded : Seeded render seed options (filled render seed options : Feed α κ ρ ε) :=
    seeded_filled render seed options
  have hblank : (blank render seed options : Feed α κ ρ ε).Latched := by
    constructor <;> simp [blank]
  apply Latched.turned
  · exact (hblank.refilled hseeded.refilled).congr rfl rfl rfl rfl
  · exact hseeded.refilled.loading

theorem Reachable.latched {f : Feed α κ ρ ε} (h : Reachable f) : f.Latched := by
  induction h with
  | start hstart => exact .start hstart
  | perform op hf ih => exact ih.step hf.faithful (hf.step op)

theorem Reachable.noMore_after {f : Feed α κ ρ ε} (h : Reachable f) (ops : List (Op α κ ε))
    (hnoMore : f.listing.noMore = true) : (f.after ops).listing.noMore = true := by
  induction ops generalizing f with
  | nil => exact hnoMore
  | cons op ops ih => exact ih (h.perform op) ((h.step op).noMore h.faithful hnoMore)

theorem Reachable.live_of_after {f : Feed α κ ρ ε} (h : Reachable f) (ops : List (Op α κ ε))
    (hlive : (f.after ops).tornDown = false) : f.tornDown = false := by
  induction ops generalizing f with
  | nil => exact hlive
  | cons op ops ih => exact (h.step op).live h.faithful (ih (h.perform op) hlive)

/-- The flags agree in every state, and a trigger that is gone never comes back. -/
theorem trigger_of_reachable {f : Feed α κ ρ ε} (h : Reachable f) :
    (f.trigger = .removed ↔ f.listing.noMore = true ∨ f.tornDown = true) ∧
    (f.listing.loading = true →
      (∃ mode, f.trigger = .armed mode) ∧ f.listing.noMore = false ∧ f.tornDown = false) ∧
    ((∃ request, f.beginLoad.1 = some request) ↔
      (∃ mode, f.trigger = .armed mode) ∧ f.listing.loading = false) ∧
    ∀ ops : List (Op α κ ε),
      (f.listing.noMore = true → (f.after ops).listing.noMore = true) ∧
      (f.tornDown = true → (f.after ops).tornDown = true) ∧
      (f.listing.noMore = true ∨ f.tornDown = true → (f.after ops).beginLoad.1 = none) := by
  have hlatched := h.latched
  refine ⟨hlatched.removed_iff, ?_, ?_, ?_⟩
  · intro hbusy
    have hopen := hlatched.busy hbusy
    exact ⟨hlatched.armed_iff.mpr hopen, hopen⟩
  · simp only [beginLoad_eq_some_iff, exists_and_left, exists_eq, and_true, hlatched.ready_iff]
  · intro ops
    have hnoMore := h.noMore_after ops
    have hdown : f.tornDown = true → (f.after ops).tornDown = true := by
      intro hdown
      by_contra hlive
      rw [Bool.not_eq_true] at hlive
      rw [h.live_of_after ops hlive] at hdown
      contradiction
    refine ⟨hnoMore, hdown, ?_⟩
    intro hclosed
    have hlater := (h.after ops).latched
    have hnotReady : (f.after ops).ready ≠ true := by
      intro hready
      have hopen := hlater.armed_iff.mp (hlater.ready_iff.mp hready).1
      rcases hclosed with hclosed | hclosed
      · exact Bool.false_ne_true (hopen.1.symm.trans (hnoMore hclosed))
      · exact Bool.false_ne_true (hopen.2.symm.trans (hdown hclosed))
    rw [beginLoad_eq, if_neg hnotReady]

theorem trigger_gone_after_short_page :
    let f := snapshotFeed (.page ⟨[⟨1, 0⟩, ⟨2, 0⟩], none, some "a"⟩) .forward
    let g := f.after [.beginLoad, .finishLoad ⟨some "a", 2, 1⟩ (.ok ⟨[⟨3, 0⟩], none, some "b"⟩)]
    Reachable g ∧ g.listing.noMore = true ∧ g.trigger = .removed ∧
      (g.after [.enqueue ⟨4, 0⟩, .flush, .remove 1, .teardown]).beginLoad.1 = none := by
  intro f g
  have h : Reachable g := (Reachable.start
    (start_snapshotFeed (.page ⟨[⟨1, 0⟩, ⟨2, 0⟩], none, some "a"⟩) .forward)).after
      [.beginLoad, .finishLoad ⟨some "a", 2, 1⟩ (.ok ⟨[⟨3, 0⟩], none, some "b"⟩)]
  have hnoMore : g.listing.noMore = true := by decide
  obtain ⟨hremoved, -, -, hgone⟩ := trigger_of_reachable h
  exact ⟨h, hnoMore, hremoved.mpr (.inl hnoMore), (hgone _).2.2 (.inl hnoMore)⟩

end FeedReader.Feed
