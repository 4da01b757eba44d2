import FeedReader.Proofs.Feed.Growth
import FeedReader.Proofs.Feed.Run

/-!
# The steps of a feed

`Step` lists what each operation can do, one constructor for each outcome, with
the guard that leads to it and the whole state it leaves.  Every operation takes
one of these steps, so an invariant is shown by one case for each of them.
-/

namespace FeedReader.Feed

variable {α κ ρ ε : Type} [Keyed α κ] [DecidableEq κ]

/-! ## Starting -/

def blank (render : α → ρ) (seed : Seed α) (options : FeedOptions α ρ) : Feed α κ ρ ε where
  render := render
  pluralize := options.pluralize
  pageSize := options.pageSize
  layout := options.layout
  sentinelDistance := options.sentinelDistance
  cursorless := seed.isBare
  trigger := .armed options.trigger

def ranOut (f : Feed α κ ρ ε) (received : Nat) (cursor : Option String) : Bool :=
  received < f.pageSize || (!f.cursorless && cursor.isNone)

omit [Keyed α κ] [DecidableEq κ] in
theorem SameOptions.ranOut_eq {f g : Feed α κ ρ ε} (h : SameOptions f g) (received : Nat)
    (cursor : Option String) : g.ranOut received cursor = f.ranOut received cursor := by
  rw [ranOut, ranOut, h.pageSize, h.cursorless]

/-- The feed with the cursor of the last page, closed for good if that page was the last. -/
def turned (f : Feed α κ ρ ε) (received : Nat) (cursor : Option String) : Feed α κ ρ ε :=
  { f with
    listing := { f.listing with
      cursor
      noMore := f.listing.noMore || f.ranOut received cursor }
    trigger := if f.ranOut received cursor then .removed else f.trigger }

omit [Keyed α κ] [DecidableEq κ] in
theorem turned_eq (f : Feed α κ ρ ε) (received : Nat) (cursor : Option String) :
    f.turned received cursor =
      let next : Feed α κ ρ ε := { f with listing := { f.listing with cursor } }
      if next.isExhausted received then next.exhaust else next := by
  dsimp only
  have hran : (Feed.isExhausted
      { f with listing := { f.listing with cursor } } received) = f.ranOut received cursor := rfl
  rw [hran, turned]
  cases f.ranOut received cursor with
  | false => simp
  | true => simp [exhaust, Listing.markNoMore]

def filled (render : α → ρ) (seed : Seed α) (options : FeedOptions α ρ) : Feed α κ ρ ε :=
  seed.items.foldl (fun f item => (f.place f.listing.size item).2) (blank render seed options)

structure Seeded (render : α → ρ) (seed : Seed α) (options : FeedOptions α ρ)
    (f : Feed α κ ρ ε) : Prop where
  faithful : f.Faithful
  refilled : Refilled (blank render seed options) f
  queueKeys : f.queueKeys = []
  rowKeys : f.rowKeys = unseen [] seed.items

theorem seeded_filled (render : α → ρ) (seed : Seed α) (options : FeedOptions α ρ) :
    Seeded render seed options (filled render seed options : Feed α κ ρ ε) := by
  have hblank : (blank render seed options : Feed α κ ρ ε).Faithful :=
    ⟨Listing.sound_empty, fun _ hrow => absurd hrow List.not_mem_nil⟩
  obtain ⟨hfaithful, hrefilled, hqueue, hrows⟩ := foldl_place_end hblank rfl seed.items
  exact ⟨hfaithful, hrefilled, hqueue, hrows⟩

theorem start_eq_ok_iff (seed : Seed α) (options : FeedOptions α ρ) (f : Feed α κ ρ ε) :
    Feed.start seed options = .ok f ↔
      ∃ render, options.render? = some render ∧ options.pageSize ≠ 0 ∧
        f = Feed.turned
          { filled render seed options with
            placeholder :=
              if (filled render seed options : Feed α κ ρ ε).listing.isEmpty
              then options.emptyState else none }
          seed.items.length (seed.olderCursor options.layout) := by
  rw [start]
  cases hrender : options.render? with
  | none => simp
  | some render =>
      by_cases hsize : options.pageSize = 0
      · simp [hsize]
      · simp only [hsize, if_false, Except.ok.injEq, Option.some.injEq, ne_eq,
          not_false_eq_true, true_and, exists_eq_left', turned_eq]
        exact eq_comm

structure Started (seed : Seed α) (options : FeedOptions α ρ) (f : Feed α κ ρ ε) : Prop where
  faithful : f.Faithful
  rowKeys : f.rowKeys = unseen [] seed.items
  queueKeys : f.queueKeys = []
  placeholder : f.placeholder.isSome = true → f.rowKeys = []
  render : options.render? = some f.render
  focus : f.focus = {}
  generation : f.generation = 0
  idle : f.listing.loading = false
  live : f.tornDown = false

theorem started {seed : Seed α} {options : FeedOptions α ρ} {f : Feed α κ ρ ε}
    (h : Feed.start seed options = .ok f) : Started seed options f := by
  obtain ⟨render, hrender, -, rfl⟩ := (start_eq_ok_iff seed options f).mp h
  have hseeded : Seeded render seed options (filled render seed options : Feed α κ ρ ε) :=
    seeded_filled render seed options
  have hrefilled := hseeded.refilled
  refine ⟨hseeded.faithful.congr rfl rfl rfl rfl, hseeded.rowKeys, hseeded.queueKeys, ?_, ?_,
    hrefilled.focus, hrefilled.generation, hrefilled.loading, hrefilled.tornDown⟩
  · intro hplaceholder
    dsimp only [turned] at hplaceholder
    split at hplaceholder
    · next hempty => exact (Listing.rowKeys_eq_nil_iff _).mpr (List.isEmpty_iff.mp hempty)
    · contradiction
  · rw [hrender]
    exact congrArg some hrefilled.render.symm

/-! ## The step relation -/

def ready (f : Feed α κ ρ ε) : Bool :=
  !f.tornDown && !f.listing.loading && !f.listing.noMore && f.trigger ≠ .removed

def nextRequest (f : Feed α κ ρ ε) : LoadRequest :=
  ⟨f.listing.cursor, f.pageSize, f.generation + 1⟩

inductive Step (f : Feed α κ ρ ε) : Op α κ ε → Answer α → Feed α κ ρ ε → Prop where
  | refused : f.ready = false → Step f .beginLoad (.asked none) f
  | began : f.ready = true →
      Step f .beginLoad (.asked (some f.nextRequest))
        { f with
          generation := f.generation + 1
          listing := { f.listing with loading := true } }
  | discarded {request : LoadRequest} {result : Except ε (Page α)} :
      f.isAwaited request = false →
      Step f (.finishLoad request result) (.finished .discarded) f
  | failed {request : LoadRequest} {error : ε} : f.isAwaited request = true →
      Step f (.finishLoad request (.error error)) (.finished .failed)
        { f.idle with log := f.log ++ [.failed error] }
  | loaded {request : LoadRequest} {page : Page α} {tally : Tally} {grown : Feed α κ ρ ε} :
      f.isAwaited request = true →
      page.items.foldl absorb ({}, f.idle) = (tally, grown) →
      Step f (.finishLoad request (.ok page))
        (.finished (.loaded tally.added tally.merged
          (grown.ranOut page.items.length (page.olderCursor f.layout))))
        (Feed.turned
          { grown with
            focus := grown.focus.inserted
              (match f.layout with
                | .forward => f.listing.size
                | .reverse => 0)
              tally.added f.listing.size
            placeholder := if 0 < tally.added then none else grown.placeholder }
          page.items.length (page.olderCursor f.layout))
  | late {item : α} : f.tornDown = true → Step f (.enqueue item) (.arrived .discarded) f
  | merged {item : α} {index : Nat} : f.tornDown = false →
      f.rowKeys[index]? = some (key item) →
      Step f (.enqueue item) (.arrived (.merged index))
        { f with
          listing := f.listing.update index ⟨item, f.render item⟩
          log := f.log ++ [.rendered item] }
  | waited {item : α} {arrival : Arrival} : f.tornDown = false → key item ∉ f.rowKeys →
      arrival ≠ .discarded →
      Step f (.enqueue item) (.arrived arrival)
        { f with listing := { f.listing with queue := (f.listing.queue.push item).2 } }
  | nothingToShow : f.tornDown = true ∨ f.queueKeys = [] → Step f .flush (.shown 0) f
  | showed {added : Nat} {grown : Feed α κ ρ ε} : f.tornDown = false → f.queueKeys ≠ [] →
      f.listing.queue.items.reverse.foldl settle (0, f.emptied) = (added, grown) →
      Step f .flush (.shown added)
        { grown with
          focus := grown.focus.inserted
            (match f.layout with
              | .forward => 0
              | .reverse => f.listing.size)
            added f.listing.size
          placeholder := none }
  | kept {k : κ} : k ∉ f.rowKeys → Step f (.remove k) (.dropped none) f
  | dropped {k : κ} {index : Nat} {row : Row α ρ} : f.rowKeys[index]? = some k →
      f.listing.rows[index]? = some row →
      Step f (.remove k) (.dropped (some row.item))
        { f with listing := f.listing.eraseRow index k, focus := f.focus.removed index }
  | stuck {nav : Nav} : f.tornDown = true → Step f (.navigate nav) (.moved none) f
  | moved {nav : Nav} : f.tornDown = false →
      Step f (.navigate nav) (.moved (f.focus.navigate nav f.listing.size).1)
        { f with focus := (f.focus.navigate nav f.listing.size).2 }
  | releasedAtOnce {resource : Nat} : f.tornDown = true →
      Step f (.attach resource) .done { f with log := f.log ++ [.released resource] }
  | attached {resource : Nat} : f.tornDown = false →
      Step f (.attach resource) .done { f with attachments := f.attachments ++ [resource] }
  | alreadyDown : f.tornDown = true → Step f .teardown .done f
  | wentDown : f.tornDown = false →
      Step f .teardown .done
        { f with
          tornDown := true
          attachments := []
          log := f.log ++ f.attachments.map .released
          trigger := .removed
          listing := f.listing.clear
          placeholder := none
          focus := f.focus.reset }

/-! ## Every operation takes a step -/

omit [Keyed α κ] [DecidableEq κ] in
theorem beginLoad_eq (f : Feed α κ ρ ε) :
    f.beginLoad =
      if f.ready then
        (some f.nextRequest, { f with
          generation := f.generation + 1
          listing := { f.listing with loading := true } })
      else (none, f) := by
  have hguard : (f.tornDown || f.listing.loading || f.listing.noMore ||
      decide (f.trigger = .removed)) = !f.ready := by
    simp [ready, Bool.not_and]
  rw [beginLoad, hguard]
  cases f.ready with
  | false => rfl
  | true => rfl

omit [Keyed α κ] [DecidableEq κ] in
theorem isAwaited_eq_true_iff (f : Feed α κ ρ ε) (request : LoadRequest) :
    f.isAwaited request = true ↔
      f.tornDown = false ∧ f.listing.loading = true ∧ request.generation = f.generation := by
  simp [isAwaited, and_assoc]

private theorem step_beginLoad (f : Feed α κ ρ ε) :
    Step f .beginLoad (.asked f.beginLoad.1) f.beginLoad.2 := by
  rw [beginLoad_eq]
  split
  · next hready => exact .began hready
  · next hready => exact .refused (Bool.eq_false_iff.mpr hready)

private theorem step_finishLoad (f : Feed α κ ρ ε) (request : LoadRequest)
    (result : Except ε (Page α)) :
    Step f (.finishLoad request result) (.finished (f.finishLoad request result).1)
      (f.finishLoad request result).2 := by
  cases hawaited : f.isAwaited request with
  | false =>
      rw [finishLoad, hawaited]
      exact .discarded hawaited
  | true =>
      rw [finishLoad, hawaited]
      cases result with
      | error error => exact .failed hawaited
      | ok page =>
          rcases hfold : page.items.foldl absorb ({}, f.idle) with ⟨tally, grown⟩
          have hstep : Step f (.finishLoad request (.ok page)) _ _ := .loaded hawaited hfold
          rw [turned_eq] at hstep
          have hfold' : page.items.foldl absorb ({}, { f with
              listing := { f.listing with loading := false } }) = (tally, grown) := hfold
          simp only [Bool.not_true, Bool.false_eq_true, if_false, hfold']
          exact hstep

private theorem step_enqueue {f : Feed α κ ρ ε} (h : f.listing.Sound) (item : α) :
    Step f (.enqueue item) (.arrived (f.enqueue item).1) (f.enqueue item).2 := by
  rw [enqueue]
  by_cases hdown : f.tornDown = true
  · rw [if_pos hdown]
    exact .late hdown
  · rw [if_neg hdown]
    rw [Bool.not_eq_true] at hdown
    cases hpos : f.listing.position (key item) with
    | some index => exact .merged hdown ((h.position_eq_some_iff _ _).mp hpos)
    | none =>
        have hnew : key item ∉ f.rowKeys := (h.position_eq_none_iff _).mp hpos
        rcases hpush : f.listing.queue.push item with ⟨pending, queue⟩
        have hqueue : queue = (f.listing.queue.push item).2 := by rw [hpush]
        rw [hqueue]
        cases pending with
        | added waiting => exact .waited hdown hnew Arrival.noConfusion
        | replaced => exact .waited hdown hnew Arrival.noConfusion

private theorem step_flush (f : Feed α κ ρ ε) : Step f .flush (.shown f.flush.1) f.flush.2 := by
  rw [flush]
  have hguard : (f.tornDown || f.listing.queue.isEmpty) = true ↔
      f.tornDown = true ∨ f.queueKeys = [] := by
    simp [queueKeys, Queue.keys_eq_nil_iff]
  split
  · next hnone => exact .nothingToShow (hguard.mp hnone)
  · next hsome =>
      rw [hguard, not_or, Bool.not_eq_true] at hsome
      rcases hfold : f.listing.queue.items.reverse.foldl settle (0, f.emptied) with ⟨added, grown⟩
      have hfold' : f.listing.queue.items.reverse.foldl settle (0, { f with
          listing := { f.listing with queue := ⟨[]⟩ } }) = (added, grown) := hfold
      simp only [Queue.drain, hfold']
      exact .showed hsome.1 hsome.2 hfold

private theorem step_remove {f : Feed α κ ρ ε} (h : f.listing.Sound) (k : κ) :
    Step f (.remove k) (.dropped (f.remove k).1) (f.remove k).2 := by
  rw [remove]
  rcases h.remove_cases k with ⟨hk, hremove⟩ | ⟨index, row, hkey, hrow, hremove⟩
  · rw [hremove]
    exact .kept hk
  · rw [hremove]
    exact .dropped hkey hrow

theorem step_perform {f : Feed α κ ρ ε} (h : f.listing.Sound) (op : Op α κ ε) :
    Step f op (f.perform op).1 (f.perform op).2 := by
  cases op with
  | beginLoad => exact step_beginLoad f
  | finishLoad request result => exact step_finishLoad f request result
  | enqueue item => exact step_enqueue h item
  | flush => exact step_flush f
  | remove k => exact step_remove h k
  | navigate nav =>
      rw [perform, navigate]
      split
      · next hdown => exact .stuck hdown
      · next hdown => exact .moved (Bool.eq_false_iff.mpr hdown)
  | attach resource =>
      rw [perform, attach]
      split
      · next hdown => exact .releasedAtOnce hdown
      · next hdown => exact .attached (Bool.eq_false_iff.mpr hdown)
  | teardown =>
      rw [perform, teardown]
      split
      · next hdown => exact .alreadyDown hdown
      · next hdown => exact .wentDown (Bool.eq_false_iff.mpr hdown)

end FeedReader.Feed
