import FeedReader.Proofs.Feed.Teardown

/-!
# Resources handed over to a feed

A resource is released when the feed is torn down, or when it is let go of, or at once if
it comes too late.  The main statement is that each is released exactly once, in the order
in which they were handed over, and none before the feed is torn down.
-/

namespace FeedReader.Feed

variable {α κ ρ ε : Type} [Keyed α κ] [DecidableEq κ]

/-! ## Placing items releases nothing -/

theorem releasedResources_place (f : Feed α κ ρ ε) (index : Nat) (item : α) :
    (f.place index item).2.releasedResources = f.releasedResources := by
  rw [place]
  split
  · simp [releasedResources]
  · simp [releasedResources]

theorem releasedResources_absorb (progress : Tally × Feed α κ ρ ε) (item : α) :
    (absorb progress item).2.releasedResources = progress.2.releasedResources := by
  obtain ⟨tally, f⟩ := progress
  rw [absorb_eq]
  exact releasedResources_place (f.dequeued (key item)) _ _

theorem releasedResources_settle (progress : Nat × Feed α κ ρ ε) (item : α) :
    (settle progress item).2.releasedResources = progress.2.releasedResources := by
  obtain ⟨added, f⟩ := progress
  rw [settle_eq]
  exact releasedResources_place f _ _

omit [Keyed α κ] [DecidableEq κ] in
theorem releasedResources_foldl {σ : Type} (feed : σ → Feed α κ ρ ε) {turn : σ → α → σ}
    (hturn : ∀ progress item,
      (feed (turn progress item)).releasedResources = (feed progress).releasedResources)
    (progress : σ) (items : List α) :
    (feed (items.foldl turn progress)).releasedResources = (feed progress).releasedResources := by
  induction items generalizing progress with
  | nil => rfl
  | cons item items ih => rw [List.foldl_cons, ih, hturn]

/-! ## What has become of the resources -/

structure Accounted (given : List Nat) (f : Feed α κ ρ ε) : Prop where
  all : f.releasedResources ++ f.attachments = given
  kept : f.tornDown = false → f.releasedResources = []
  freed : f.tornDown = true → f.attachments = []

omit [Keyed α κ] [DecidableEq κ] in
theorem Accounted.quiet {given : List Nat} {f g : Feed α κ ρ ε} (h : f.Accounted given)
    {op : Op α κ ε} (hop : op.attached? = none)
    (hreleased : g.releasedResources = f.releasedResources)
    (hattachments : g.attachments = f.attachments) (htornDown : g.tornDown = f.tornDown) :
    g.Accounted (given ++ op.attached?.toList) := by
  rw [hop, Option.toList_none, List.append_nil]
  obtain ⟨hall, hkept, hfreed⟩ := h
  rw [← hreleased, ← hattachments] at hall
  rw [← hreleased, ← htornDown] at hkept
  rw [← hattachments, ← htornDown] at hfreed
  exact ⟨hall, hkept, hfreed⟩

theorem Accounted.start {seed : Seed α} {options : FeedOptions α ρ} {f : Feed α κ ρ ε}
    (h : Feed.start seed options = .ok f) : f.Accounted [] := by
  have hlive := (started h).live
  obtain ⟨render, -, -, rfl⟩ := (start_eq_ok_iff seed options f).mp h
  have hattachments : (filled render seed options : Feed α κ ρ ε).attachments = [] :=
    (seeded_filled render seed options).refilled.attachments
  have hreleased : (filled render seed options : Feed α κ ρ ε).releasedResources = [] :=
    releasedResources_foldl id (fun f item => releasedResources_place f _ item) _ _
  refine ⟨?_, fun _ => hreleased, fun hdown => ?_⟩
  · change (filled render seed options : Feed α κ ρ ε).releasedResources ++
      (filled render seed options : Feed α κ ρ ε).attachments = []
    rw [hreleased, hattachments, List.append_nil]
  · rw [hlive] at hdown
    contradiction

theorem Accounted.step {given : List Nat} {f g : Feed α κ ρ ε} (h : f.Accounted given)
    (hfaithful : f.Faithful) {op : Op α κ ε} {answer : Answer α} (hstep : Step f op answer g) :
    g.Accounted (given ++ op.attached?.toList) := by
  cases hstep with
  | refused | began | discarded | late | waited | nothingToShow | kept | dropped | stuck | moved
  | alreadyDown => exact h.quiet rfl rfl rfl rfl
  | failed _ => exact h.quiet rfl (by simp [releasedResources]) rfl rfl
  | merged _ _ => exact h.quiet rfl (by simp [releasedResources]) rfl rfl
  | @loaded _ page _ _ _ hfold =>
      have hrefilled := (hfaithful.aged hfold).refilled
      have hreleased := releasedResources_foldl Prod.snd releasedResources_absorb
        ({}, f.idle) page.items
      rw [hfold] at hreleased
      exact h.quiet rfl hreleased hrefilled.attachments hrefilled.tornDown
  | showed _ _ hfold =>
      have hrefilled := (hfaithful.renewed hfold).refilled
      have hreleased := releasedResources_foldl Prod.snd releasedResources_settle
        (0, f.emptied) f.listing.queue.items.reverse
      rw [hfold] at hreleased
      exact h.quiet rfl hreleased hrefilled.attachments hrefilled.tornDown
  | @releasedAtOnce resource hdown =>
      have hreleased := releasedResources_releasing f [resource]
      have hall : f.releasedResources = given := by
        rw [← h.all, h.freed hdown, List.append_nil]
      refine ⟨?_, fun hlive => ?_, fun _ => h.freed hdown⟩
      · rw [h.freed hdown, List.append_nil, ← hall]
        exact hreleased
      · exact absurd (hlive.symm.trans hdown) Bool.false_ne_true
  | @attached resource hlive =>
      refine ⟨?_, fun _ => h.kept hlive, fun hdown => ?_⟩
      · change f.releasedResources ++ (f.attachments ++ [resource]) = given ++ [resource]
        rw [← List.append_assoc, h.all]
      · exact absurd (hlive.symm.trans hdown) Bool.false_ne_true
  | wentDown hlive =>
      refine ⟨?_, fun hup => ?_, fun _ => rfl⟩
      · change (f.releasing f.attachments).releasedResources ++ [] = given ++ []
        rw [releasedResources_releasing, h.all]
      · contradiction

/-! ## Whole runs -/

theorem Accounted.after {given : List Nat} {f : Feed α κ ρ ε} (h : f.Accounted given)
    (hreach : Reachable f) (ops : List (Op α κ ε)) :
    (f.after ops).Accounted (given ++ attached ops) := by
  induction ops generalizing f given with
  | nil => simpa [attached] using h
  | cons op ops ih =>
      have hrest := ih (h.step hreach.faithful (hreach.step op)) (hreach.perform op)
      rw [List.append_assoc, ← attached_cons] at hrest
      exact hrest

theorem Reachable.tornDown_after_iff {f : Feed α κ ρ ε} (h : Reachable f)
    (ops : List (Op α κ ε)) :
    (f.after ops).tornDown = true ↔ f.tornDown = true ∨ .teardown ∈ ops := by
  induction ops generalizing f with
  | nil => simp
  | cons op ops ih =>
      rw [after_cons, ih (h.perform op), List.mem_cons, ← or_assoc]
      rcases eq_or_ne op .teardown with rfl | hop
      · have hdown : (f.perform .teardown).2.tornDown = true := h.gone_teardown.tornDown
        simp [hdown]
      · rw [(h.step op).tornDown h.faithful hop]
        simp [Ne.symm hop]

/--
A run that ends with the feed let go of releases each resource once, in the order in which
they were handed over: none of them before a teardown, at the first one all that came
before it, and any that comes later at once.
-/
theorem released_once {seed : Seed α} {options : FeedOptions α ρ} {f : Feed α κ ρ ε}
    (hstart : Feed.start seed options = .ok f) (ops : List (Op α κ ε)) :
    let g := f.after ops
    g.drop.releasedResources = attached ops ∧
      (.teardown ∉ ops → g.releasedResources = [] ∧
        g.teardown.releasedResources = attached ops) ∧
      (.teardown ∈ ops → g.releasedResources = attached ops ∧
        ∀ resource, (g.attach resource).releasedResources = g.releasedResources ++ [resource]) := by
  intro g
  have hreach : Reachable g := (Reachable.start hstart).after ops
  have hkept : g.Accounted (attached ops) :=
    (Accounted.start hstart).after (.start hstart) ops
  have hdown : g.tornDown = true ↔ .teardown ∈ ops := by
    rw [(Reachable.start hstart).tornDown_after_iff, (started hstart).live]
    simp
  have hlast : g.teardown.releasedResources = attached ops := by
    have hend := hkept.step hreach.faithful (hreach.step .teardown)
    have hall : g.teardown.releasedResources ++ g.teardown.attachments = attached ops ++ [] :=
      hend.all
    rw [hreach.gone_teardown.attachments] at hall
    simpa using hall
  refine ⟨hlast, fun hnone => ⟨hkept.kept ?_, hlast⟩, fun hsome => ⟨?_, fun resource => ?_⟩⟩
  · rw [← Bool.not_eq_true, hdown]
    exact hnone
  · rw [← hkept.all, hkept.freed (hdown.mpr hsome), List.append_nil]
  · rw [attach, if_pos (hdown.mpr hsome)]
    exact releasedResources_releasing g [resource]

theorem released_once_with_late_resource :
    let seed := .bare [⟨1, 0⟩]
    let f := snapshotFeed seed .forward
    let ops := [.attach 4, .enqueue ⟨2, 0⟩, .attach 2, .flush, .teardown, .attach 9, .teardown]
    Feed.start seed (snapshotOptions .forward) = .ok f ∧
      (f.after (ops.take 4)).releasedResources = [] ∧
      (f.after (ops.take 4)).teardown.releasedResources = [4, 2] ∧
      (f.after ops).drop.releasedResources = [4, 2, 9] := by
  intro seed f ops
  have hearly := released_once (start_snapshotFeed seed .forward) (ops.take 4)
  have hlate := released_once (start_snapshotFeed seed .forward) ops
  obtain ⟨hnone, hfirst⟩ := hearly.2.1 (by simp [ops])
  exact ⟨rfl, hnone, hfirst, hlate.1⟩

end FeedReader.Feed
