import FeedReader.Proofs.Feed.Step

/-!
# Rows, keys and queue stay coherent

Rows, key set, queue and placeholder are written by different operations.  The
main statement is that no run sets them at odds: a key has one row or one place
in the queue, the key set names the keys with a row, each row shows its own
item, and the placeholder stands only where there are no rows.
-/

namespace FeedReader.Feed

variable {α κ ρ ε : Type} [Keyed α κ] [DecidableEq κ]

structure Coherent (f : Feed α κ ρ ε) : Prop where
  faithful : f.Faithful
  placeholder : f.placeholder.isSome = true → f.rowKeys = []

omit [DecidableEq κ] in
theorem map_key_items (f : Feed α κ ρ ε) : f.items.map key = f.rowKeys := by
  simp [items, rowKeys, Listing.rowKeys]

omit [DecidableEq κ] in
theorem map_key_queued (f : Feed α κ ρ ε) : f.queued.map key = f.queueKeys := rfl

omit [DecidableEq κ] in
theorem Faithful.nodes_eq {f : Feed α κ ρ ε} (h : f.Faithful) :
    f.nodes = f.items.map f.render := by
  rw [nodes, items, List.map_map]
  exact List.map_congr_left h.rendered

/-! ## One step -/

theorem Faithful.step {f g : Feed α κ ρ ε} (h : f.Faithful) {op : Op α κ ε}
    {answer : Answer α} (hstep : Step f op answer g) : g.Faithful := by
  cases hstep with
  | refused | discarded | late | nothingToShow | kept | stuck | alreadyDown => exact h
  | began | failed | moved | releasedAtOnce | attached => exact h.congr rfl rfl rfl rfl
  | loaded hawaited hfold => exact (h.aged hfold).faithful.congr rfl rfl rfl rfl
  | showed hlive hsome hfold => exact (h.renewed hfold).faithful.congr rfl rfl rfl rfl
  | merged hlive hkey =>
      refine ⟨h.sound.update hkey, ?_⟩
      intro row hrow
      rcases List.mem_or_eq_of_mem_set hrow with hold | rfl
      · exact h.rendered row hold
      · rfl
  | @waited item _ hlive hnew _ =>
      refine ⟨h.sound.setQueue (Queue.nodup_keys_push h.sound.queue_distinct item) ?_,
        h.rendered⟩
      intro k hk
      rcases (Queue.mem_keys_push _ _ _).mp hk with rfl | hwaiting
      · exact hnew
      · exact h.sound.apart k hwaiting
  | dropped hkey hrow =>
      refine ⟨h.sound.eraseRow hkey, ?_⟩
      intro row hmem
      exact h.rendered row (List.mem_of_mem_eraseIdx hmem)
  | wentDown hlive =>
      exact ⟨Listing.Sound.clear f.listing, fun _ hrow => absurd hrow List.not_mem_nil⟩

theorem Coherent.step {f g : Feed α κ ρ ε} (h : f.Coherent) {op : Op α κ ε}
    {answer : Answer α} (hstep : Step f op answer g) : g.Coherent := by
  refine ⟨h.faithful.step hstep, ?_⟩
  intro hplaceholder
  cases hstep with
  | refused | began | discarded | failed | late | waited | nothingToShow | kept | stuck
  | moved | releasedAtOnce | attached | alreadyDown => exact h.placeholder hplaceholder
  | @loaded _ page tally grown hawaited hfold =>
      have haged := h.faithful.aged hfold
      dsimp only [turned] at hplaceholder
      split at hplaceholder
      · contradiction
      · next hnone =>
          have hrows : f.rowKeys = [] := by
            refine h.placeholder ?_
            rw [haged.refilled.placeholder] at hplaceholder
            exact hplaceholder
          have hunseen : unseen f.rowKeys page.items = [] := by
            rw [← List.length_eq_zero_iff, ← haged.added]
            omega
          change grown.rowKeys = []
          rw [haged.rowKeys, hunseen, hrows]
          cases f.layout with
          | forward => rfl
          | reverse => rfl
  | merged hlive hkey => exact (rowKeys_refreshed hkey).trans (h.placeholder hplaceholder)
  | showed hlive hsome hfold => contradiction
  | @dropped k _ _ hkey hrow =>
      have hnone : f.rowKeys = [] := h.placeholder hplaceholder
      rw [hnone] at hkey
      contradiction
  | wentDown hlive => contradiction

theorem SameOptions.step {f g : Feed α κ ρ ε} (h : f.Faithful) {op : Op α κ ε}
    {answer : Answer α} (hstep : Step f op answer g) : SameOptions f g := by
  cases hstep with
  | loaded hawaited hfold =>
      have hsame := (h.aged hfold).refilled.toSameOptions
      exact ⟨hsame.render, hsame.pluralize, hsame.pageSize, hsame.layout,
        hsame.sentinelDistance, hsame.cursorless⟩
  | showed hlive hsome hfold =>
      have hsame := (h.renewed hfold).refilled.toSameOptions
      exact ⟨hsame.render, hsame.pluralize, hsame.pageSize, hsame.layout,
        hsame.sentinelDistance, hsame.cursorless⟩
  | _ => exact ⟨rfl, rfl, rfl, rfl, rfl, rfl⟩

theorem Step.live {f g : Feed α κ ρ ε} {op : Op α κ ε} {answer : Answer α}
    (hstep : Step f op answer g) (h : f.Faithful) (hlive : g.tornDown = false) :
    f.tornDown = false := by
  cases hstep with
  | loaded hawaited hfold => exact (h.aged hfold).refilled.tornDown.symm.trans hlive
  | showed hdown _ _ => exact hdown
  | wentDown hdown => exact hdown
  | _ => exact hlive

/-! ## Whole runs -/

theorem Coherent.start {seed : Seed α} {options : FeedOptions α ρ} {f : Feed α κ ρ ε}
    (h : Feed.start seed options = .ok f) : f.Coherent :=
  ⟨(started h).faithful, (started h).placeholder⟩

theorem Coherent.perform {f : Feed α κ ρ ε} (h : f.Coherent) (op : Op α κ ε) :
    (f.perform op).2.Coherent :=
  h.step (step_perform h.faithful.sound op)

theorem Coherent.after {f : Feed α κ ρ ε} (h : f.Coherent) (ops : List (Op α κ ε)) :
    (f.after ops).Coherent := by
  induction ops generalizing f with
  | nil => exact h
  | cons op ops ih => exact ih (h.perform op)

theorem Reachable.coherent {f : Feed α κ ρ ε} (h : Reachable f) : f.Coherent := by
  induction h with
  | start hstart => exact .start hstart
  | perform op _ ih => exact ih.perform op

theorem Reachable.faithful {f : Feed α κ ρ ε} (h : Reachable f) : f.Faithful :=
  h.coherent.faithful

theorem Reachable.step {f : Feed α κ ρ ε} (h : Reachable f) (op : Op α κ ε) :
    Step f op (f.perform op).1 (f.perform op).2 :=
  step_perform h.faithful.sound op

theorem SameOptions.after {f : Feed α κ ρ ε} (h : f.Coherent) (ops : List (Op α κ ε)) :
    SameOptions f (f.after ops) := by
  induction ops generalizing f with
  | nil => exact .refl f
  | cons op ops ih =>
      have hone := SameOptions.step h.faithful (step_perform h.faithful.sound op)
      exact hone.trans (ih (h.perform op))

/-- What a feed shows of itself agrees: rows, key set, queue and placeholder. -/
structure Orderly (options : FeedOptions α ρ) (f : Feed α κ ρ ε) : Prop where
  rows_distinct : (f.items.map key).Nodup
  contains_iff : ∀ k, f.contains k = true ↔ k ∈ f.items.map key
  queue_distinct : (f.queued.map key).Nodup
  apart : ∀ k ∈ f.queued.map key, k ∉ f.items.map key
  rendered : ∃ render, options.render? = some render ∧ f.nodes = f.items.map render
  placeholder : f.placeholder.isSome = true → f.items = []

theorem orderly_of_run {seed : Seed α} {options : FeedOptions α ρ} {f : Feed α κ ρ ε}
    (hstart : Feed.start seed options = .ok f) (ops : List (Op α κ ε)) :
    (f.after ops).Orderly options := by
  have hfirst := Coherent.start hstart
  have hlast := hfirst.after ops
  have hsound := hlast.faithful.sound
  have hkeys := map_key_items (f.after ops)
  refine ⟨hkeys ▸ hsound.rows_distinct, hkeys ▸ hsound.contains_iff, hsound.queue_distinct,
    hkeys ▸ hsound.apart, ⟨f.render, (started hstart).render, ?_⟩, ?_⟩
  · rw [hlast.faithful.nodes_eq, (SameOptions.after hfirst ops).render]
  · intro hplaceholder
    have hrows := hlast.placeholder hplaceholder
    rwa [← hkeys, List.map_eq_nil_iff] at hrows

theorem orderly_of_repeated_keys :
    let seed := .page ⟨[⟨1, 0⟩, ⟨1, 5⟩], none, some "a"⟩
    let f := snapshotFeed seed .forward
    let g := f.after [.enqueue ⟨7, 3⟩, .beginLoad,
      .finishLoad ⟨some "a", 2, 1⟩ (.ok ⟨[⟨7, 0⟩, ⟨3, 0⟩, ⟨3, 1⟩], none, some "b"⟩),
      .enqueue ⟨9, 0⟩]
    Feed.start seed (snapshotOptions .forward) = .ok f ∧
      g.items = [⟨1, 5⟩, ⟨7, 3⟩, ⟨3, 1⟩] ∧ g.queued = [⟨9, 0⟩] ∧
      g.Orderly (snapshotOptions .forward) :=
  ⟨rfl, by decide, by decide, orderly_of_run (start_snapshotFeed _ _) _⟩

end FeedReader.Feed
