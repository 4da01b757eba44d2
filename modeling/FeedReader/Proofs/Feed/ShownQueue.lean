import FeedReader.Proofs.Feed.OlderEnd
import FeedReader.Proofs.Feed.PageBlock
import FeedReader.Proofs.Feed.Paging
import FeedReader.Proofs.Feed.Teardown

/-!
# Showing what waits

What waits is shown one arrival after the other, each at the newer end and each by a call that
would refresh a row of its key.  Since what waits has no row, it comes in as one block: the rows
are those of before with the queue set beside them, the most recent arrival outermost.

A page comes in at the other end.  Where it has no key that waits, it does not matter which of
the two comes first.
-/

namespace FeedReader

theorem Layout.map_withNewer {β γ : Type} (layout : Layout) (f : β → γ) (rows newer : List β) :
    (layout.withNewer rows newer).map f = layout.withNewer (rows.map f) (newer.map f) := by
  cases layout with
  | forward => simp [withNewer]
  | reverse => simp [withNewer]

theorem Layout.withOlder_withNewer {β : Type} (layout : Layout) (rows older newer : List β) :
    layout.withOlder (layout.withNewer rows newer) older =
      layout.withNewer (layout.withOlder rows older) newer := by
  cases layout with
  | forward => simp [withOlder, withNewer]
  | reverse => simp [withOlder, withNewer]

namespace Feed

variable {α κ ρ ε : Type} [Keyed α κ] [DecidableEq κ]

/-! ## Rows and what they show -/

def rowOf (f : Feed α κ ρ ε) (item : α) : Row α ρ := ⟨item, f.render item⟩

theorem Faithful.map_some_rows {f : Feed α κ ρ ε} (h : f.Faithful) :
    f.listing.rows.map some = f.rowKeys.map fun k => (f.held? k).map f.rowOf := by
  rw [rowKeys, Listing.rowKeys, List.map_map]
  apply List.map_congr_left
  intro row hrow
  obtain ⟨-, hheld, hnode⟩ := (h.mem_rows_iff row).mp hrow
  have hrow : row = f.rowOf row.item := Row.ext rfl hnode
  rw [Function.comp_apply, hheld, Option.map_some, ← hrow]

theorem Faithful.map_some_queued {f : Feed α κ ρ ε} (h : f.Faithful) :
    (f.queued.map f.rowOf).map some = f.queueKeys.map fun k => (f.held? k).map f.rowOf := by
  rw [← map_key_queued, List.map_map, List.map_map]
  apply List.map_congr_left
  intro x hx
  rw [Function.comp_apply, Function.comp_apply, h.held?_of_mem_queued hx, Option.map_some]

theorem Faithful.rows_eq_of_keys {f g : Feed α κ ρ ε} (h : g.Faithful)
    (hrender : g.render = f.render) (hheld : ∀ k, g.held? k = f.held? k) {rows : List (Row α ρ)}
    (hrows : rows.map some = g.rowKeys.map fun k => (f.held? k).map f.rowOf) :
    g.listing.rows = rows := by
  have hrowOf : g.rowOf = f.rowOf := by
    funext item
    rw [rowOf, rowOf, hrender]
  have hsome : g.listing.rows.map some = rows.map some := by
    rw [h.map_some_rows, hrows, hrowOf]
    simp only [hheld]
  exact List.map_injective_iff.mpr (fun _ _ => Option.some.inj) hsome

/-! ## One block -/

theorem log_foldl_settle (progress : Nat × Feed α κ ρ ε) (items : List α) :
    (items.foldl settle progress).2.log = progress.2.log ++ items.map .rendered := by
  induction items generalizing progress with
  | nil => exact (List.append_nil _).symm
  | cons item items ih =>
      have hone : (settle progress item).2.log = progress.2.log ++ [.rendered item] := by
        obtain ⟨added, f⟩ := progress
        rw [settle_eq]
        exact log_place _ _ _
      rw [List.foldl_cons, ih, hone, List.append_assoc]
      rfl

structure Flushed (f : Feed α κ ρ ε) (added : Nat) (g : Feed α κ ρ ε) : Prop
    extends SameOptions f g where
  faithful : g.Faithful
  count : added = f.queued.length
  rowKeys : g.rowKeys = f.layout.withNewer f.rowKeys f.queueKeys
  queued : g.queued = []
  held : ∀ k, g.held? k = f.held? k
  log : g.log = f.log ++ f.queued.reverse.map .rendered
  index : g.focus.index =
    if 0 < f.listing.size ∧ (f.layout = .reverse → f.listing.size ≤ f.focus.index)
    then f.focus.index + added else f.focus.index
  cursor : g.listing.cursor = f.listing.cursor
  noMore : g.listing.noMore = f.listing.noMore
  loading : g.listing.loading = f.listing.loading
  trigger : g.trigger = f.trigger
  generation : g.generation = f.generation
  tornDown : g.tornDown = f.tornDown

theorem Flushed.of_queued_eq_nil {f : Feed α κ ρ ε} (h : f.Faithful) (hnone : f.queued = []) :
    Flushed f 0 f where
  toSameOptions := .refl f
  faithful := h
  count := by rw [hnone, List.length_nil]
  rowKeys := by
    rw [← map_key_queued, hnone]
    cases f.layout with
    | forward => rfl
    | reverse => exact (List.append_nil _).symm
  queued := hnone
  held := fun _ => rfl
  log := by simp [hnone]
  index := by simp
  cursor := rfl
  noMore := rfl
  loading := rfl
  trigger := rfl
  generation := rfl
  tornDown := rfl

theorem Step.flushed {f g : Feed α κ ρ ε} {added : Nat} (hstep : Step f .flush (.shown added) g)
    (h : f.Faithful) (hfits : f.FocusFits) (hdown : f.tornDown = true → f.queued = []) :
    Flushed f added g := by
  have hsame := SameOptions.step h hstep
  have hfaithful := h.step hstep
  cases hstep with
  | nothingToShow hnone =>
      refine .of_queued_eq_nil h (hnone.elim hdown ?_)
      intro hkeys
      rwa [← map_key_queued, List.map_eq_nil_iff] at hkeys
  | @showed _ grown _ _ hfold =>
      have hrenewed := h.renewed hfold
      have hrefilled := hrenewed.refilled
      have hgrown : grown = (f.queued.reverse.foldl settle (0, f.emptied)).2 :=
        (congrArg Prod.snd hfold).symm
      have hheld : ∀ k, grown.held? k = f.held? k := h.held?_showed hfold
      refine ⟨hsame, hfaithful, ?_, hrenewed.rowKeys, List.map_eq_nil_iff.mp hrenewed.queueKeys,
        hheld, ?_, ?_, hrefilled.cursor, hrefilled.noMore, hrefilled.loading, hrefilled.trigger,
        hrefilled.generation, hrefilled.tornDown⟩
      · rw [hrenewed.added, ← map_key_queued, List.length_map]
      · change grown.log = _
        rw [hgrown, log_foldl_settle]
        rfl
      · change (grown.focus.inserted _ added f.listing.size).index = _
        rw [hrefilled.focus]
        refine (Focus.index_inserted hfits.unlimited _ _ _).trans ?_
        cases f.layout with
        | forward => simp
        | reverse => simp

theorem Reachable.flushed {f : Feed α κ ρ ε} (h : Reachable f) : Flushed f f.flush.1 f.flush.2 :=
  (h.step .flush).flushed h.faithful h.focusFits fun hdown => (h.gone hdown).queue

theorem Flushed.rows {f g : Feed α κ ρ ε} {added : Nat} (h : Flushed f added g)
    (hf : f.Faithful) :
    g.listing.rows = f.layout.withNewer f.listing.rows (f.queued.map f.rowOf) := by
  apply h.faithful.rows_eq_of_keys h.render h.held
  rw [h.rowKeys, Layout.map_withNewer, Layout.map_withNewer, hf.map_some_rows, hf.map_some_queued]

/--
What waits is shown as one block at the newer end, each arrival rendered once, the oldest first.
The rows that are there stay as they are, and neither the paging nor a load under way is touched.
-/
theorem flush_shows_queue {f : Feed α κ ρ ε} (h : Reachable f) :
    let g := f.flush.2
    f.flush.1 = f.queued.length ∧ g.queued = [] ∧
    g.items = f.layout.withNewer f.items f.queued ∧
    g.listing.rows = f.layout.withNewer f.listing.rows (f.queued.map f.rowOf) ∧
    g.log = f.log ++ f.queued.reverse.map .rendered ∧
    g.listing.cursor = f.listing.cursor ∧ g.listing.noMore = f.listing.noMore ∧
    g.listing.loading = f.listing.loading ∧ g.trigger = f.trigger := by
  intro g
  have hflushed : Flushed f f.flush.1 g := h.flushed
  have hrows := hflushed.rows h.faithful
  have hitems : g.items = f.layout.withNewer f.items f.queued := by
    have hqueued : (f.queued.map f.rowOf).map Row.item = f.queued := by
      rw [List.map_map]
      exact List.map_id _
    rw [items, hrows, Layout.map_withNewer, hqueued]
    rfl
  exact ⟨hflushed.count, hflushed.queued, hitems, hrows, hflushed.log, hflushed.cursor,
    hflushed.noMore, hflushed.loading, hflushed.trigger⟩

theorem flush_shows_queue_in_reverse :
    let f := (snapshotFeed (.page ⟨[⟨1, 0⟩, ⟨2, 0⟩], some "a", none⟩) .reverse).after
      [.enqueue ⟨3, 0⟩, .enqueue ⟨4, 0⟩, .enqueue ⟨1, 7⟩, .enqueue ⟨3, 5⟩, .beginLoad]
    Reachable f ∧ f.flush.1 = 2 ∧ f.flush.2.items = [⟨1, 7⟩, ⟨2, 0⟩, ⟨3, 5⟩, ⟨4, 0⟩] ∧
      f.flush.2.listing.loading = true := by
  intro f
  have h : Reachable f := (Reachable.start (start_snapshotFeed _ _)).after _
  obtain ⟨hcount, -, hitems, -, -, -, -, hloading, -⟩ := flush_shows_queue h
  exact ⟨h, hcount.trans (by decide), hitems.trans (by decide), hloading.trans (by decide)⟩

/-! ## A page beside what waits -/

structure PageApplied (f : Feed α κ ρ ε) (page : Page α) (outcome : LoadOutcome)
    (g : Feed α κ ρ ε) : Prop extends PagePlaced f page outcome g, SameOptions f g where
  faithful : g.Faithful
  held : ∀ k, g.held? k =
    ((copies k page.items).drop (if k ∈ f.queueKeys then 1 else 0)).getLast?.or (f.held? k)
  index : g.focus.index =
    if 0 < f.listing.size ∧ (f.layout = .forward → f.listing.size ≤ f.focus.index)
    then f.focus.index + (unseen f.rowKeys page.items).length else f.focus.index
  cursor : g.listing.cursor = page.olderCursor f.layout
  noMore : g.listing.noMore = f.ranOut page.items.length (page.olderCursor f.layout)
  trigger : g.trigger =
    if f.ranOut page.items.length (page.olderCursor f.layout) then .removed else f.trigger
  tornDown : g.tornDown = f.tornDown

theorem Step.pageApplied {f g : Feed α κ ρ ε} {request : LoadRequest} {page : Page α}
    {outcome : LoadOutcome}
    (hstep : Step f (.finishLoad request (.ok page)) (.finished outcome) g) (h : f.Faithful)
    (hlatched : f.Latched) (hfits : f.FocusFits) (hawaited : f.isAwaited request = true) :
    PageApplied f page outcome g := by
  have hplaced := hstep.pagePlaced h hawaited
  have htaken := hstep.pageTaken h hawaited
  obtain ⟨merged, rfl, -⟩ := hplaced.outcome
  obtain ⟨hcursor, hnoMore⟩ := hstep.turn_of_page h hlatched rfl
  exact ⟨hplaced, SameOptions.step h hstep, h.step hstep, hstep.held?_of_page h nofun,
    htaken.grown.index_eq hfits.unlimited, hcursor, hnoMore, htaken.trigger,
    hstep.tornDown h nofun⟩

theorem Reachable.pageApplied {f : Feed α κ ρ ε} (h : Reachable f) {request : LoadRequest}
    (hawaited : f.isAwaited request = true) (page : Page α) :
    PageApplied f page (f.finishLoad request (.ok page)).1 (f.finishLoad request (.ok page)).2 :=
  (h.step (.finishLoad request (.ok page))).pageApplied h.faithful h.latched h.focusFits hawaited

theorem Flushed.size {f g : Feed α κ ρ ε} {added : Nat} (h : Flushed f added g) :
    g.listing.size = f.listing.size + added := by
  rw [← length_rowKeys, ← length_rowKeys, h.rowKeys, Layout.length_withNewer, ← map_key_queued,
    List.length_map, h.count]

theorem PageApplied.size {f g : Feed α κ ρ ε} {page : Page α} {outcome : LoadOutcome}
    (h : PageApplied f page outcome g) :
    g.listing.size = f.listing.size + (unseen f.rowKeys page.items).length := by
  rw [← length_rowKeys, ← length_rowKeys, h.rowKeys, Layout.length_withOlder]

/-! ## Either order -/

section EitherOrder

variable {f shown shownFirst loaded shownLast : Feed α κ ρ ε} {page : Page α} {first last : Nat}
  {outcome outcome' : LoadOutcome} (hshown : Flushed f first shown)
  (hshownFirst : PageApplied shown page outcome shownFirst)
  (hloaded : PageApplied f page outcome' loaded) (hshownLast : Flushed loaded last shownLast)
  (hapart : ∀ k ∈ page.items.map key, k ∉ f.queueKeys)

include hshown hapart in
theorem unseen_shown : unseen shown.rowKeys page.items = unseen f.rowKeys page.items := by
  apply unseen_congr
  intro k hk
  rw [hshown.rowKeys, Layout.mem_withNewer, or_iff_left (hapart k hk)]

include hloaded hapart in
theorem queued_loaded : loaded.queued = f.queued := by
  rw [hloaded.queued]
  apply List.filter_eq_self.mpr
  intro x hx
  apply decide_eq_true
  intro hpage
  exact hapart (key x) hpage (List.mem_map_of_mem hx)

include hshown hshownFirst hloaded hshownLast hapart

theorem rowKeys_either_order : shownFirst.rowKeys = shownLast.rowKeys := by
  have hqueueKeys : loaded.queueKeys = f.queueKeys := by
    rw [← map_key_queued, queued_loaded hloaded hapart, map_key_queued]
  rw [hshownFirst.rowKeys, unseen_shown hshown hapart, hshown.rowKeys, hshown.layout,
    Layout.withOlder_withNewer, hshownLast.rowKeys, hqueueKeys, hloaded.layout, hloaded.rowKeys]

theorem held?_either_order (k : κ) : shownFirst.held? k = shownLast.held? k := by
  have hnone : k ∉ shown.queueKeys := by
    rw [← map_key_queued, hshown.queued]
    exact List.not_mem_nil
  rw [hshownFirst.held, hshown.held, hshownLast.held, hloaded.held, if_neg hnone, List.drop_zero]
  split
  · next hk =>
      have hcopies : copies k page.items = [] :=
        (copies_eq_nil_iff k page.items).mpr fun hpage => hapart k hpage hk
      rw [hcopies, List.drop_nil]
  · rfl

theorem rows_either_order : shownFirst.listing.rows = shownLast.listing.rows := by
  have hrender : shownFirst.render = shownLast.render := by
    rw [hshownFirst.render, hshown.render, hshownLast.render, hloaded.render]
  have hheld := held?_either_order hshown hshownFirst hloaded hshownLast hapart
  have hrowOf : shownFirst.rowOf = shownLast.rowOf := by
    funext item
    rw [rowOf, rowOf, hrender]
  apply hshownFirst.faithful.rows_eq_of_keys hrender hheld
  rw [hshownLast.faithful.map_some_rows,
    rowKeys_either_order hshown hshownFirst hloaded hshownLast hapart]

omit hshownLast in
theorem outcome_either_order : outcome = outcome' := by
  obtain ⟨merged, houtcome, hcount⟩ := hshownFirst.outcome
  obtain ⟨merged', houtcome', hcount'⟩ := hloaded.outcome
  rw [unseen_shown hshown hapart] at houtcome hcount
  have hmerged : merged = merged' := Nat.add_left_cancel (hcount.trans hcount'.symm)
  rw [houtcome, houtcome', hmerged, hshown.ranOut_eq, hshown.layout]

theorem index_either_order (hsome : 0 < f.listing.size) :
    shownFirst.focus.index = shownLast.focus.index := by
  have hcount : last = first := by
    rw [hshownLast.count, hshown.count, queued_loaded hloaded hapart]
  rw [hshownFirst.index, hshown.index, hshown.size, unseen_shown hshown hapart, hshown.layout,
    hshownLast.index, hloaded.index, hloaded.size, hloaded.layout, hcount]
  cases f.layout with
  | forward =>
      simp only [reduceCtorEq, false_implies, forall_const, and_true]
      split_ifs <;> omega
  | reverse =>
      simp only [reduceCtorEq, false_implies, forall_const, and_true]
      split_ifs <;> omega

end EitherOrder

/--
A page that has no key that waits may come in before what waits is shown or after it: rows,
queue, paging, both answers and, where there was a row before, the focused key are the same.
-/
theorem flush_and_page_in_either_order {f : Feed α κ ρ ε} (h : Reachable f)
    {request : LoadRequest} (hawaited : f.isAwaited request = true) {page : Page α}
    (hapart : ∀ k ∈ page.items.map key, k ∉ f.queued.map key) :
    let shown := f.flush
    let shownFirst := shown.2.finishLoad request (.ok page)
    let loaded := f.finishLoad request (.ok page)
    let shownLast := loaded.2.flush
    shownFirst.2.listing.rows = shownLast.2.listing.rows ∧
    shownFirst.2.queued = [] ∧ shownLast.2.queued = [] ∧
    shownFirst.2.listing.cursor = shownLast.2.listing.cursor ∧
    shownFirst.2.listing.noMore = shownLast.2.listing.noMore ∧
    shownFirst.2.trigger = shownLast.2.trigger ∧
    shownFirst.1 = loaded.1 ∧ shown.1 = shownLast.1 ∧
    (f.items ≠ [] → shownFirst.2.focusedKey = shownLast.2.focusedKey) := by
  intro shown shownFirst loaded shownLast
  have hshown : Flushed f shown.1 shown.2 := h.flushed
  have hawaited' : shown.2.isAwaited request = true := by
    rw [isAwaited_eq_true_iff, hshown.tornDown, hshown.loading, hshown.generation]
    exact (isAwaited_eq_true_iff f request).mp hawaited
  have hshownFirst : PageApplied shown.2 page shownFirst.1 shownFirst.2 :=
    (h.perform .flush).pageApplied hawaited' page
  have hloaded : PageApplied f page loaded.1 loaded.2 := h.pageApplied hawaited page
  have hshownLast : Flushed loaded.2 shownLast.1 shownLast.2 :=
    (h.perform (.finishLoad request (.ok page))).flushed
  rw [map_key_queued] at hapart
  have hranOut : shown.2.ranOut = f.ranOut := by
    funext received cursor
    exact hshown.ranOut_eq received cursor
  refine ⟨rows_either_order hshown hshownFirst hloaded hshownLast hapart, ?_, hshownLast.queued, ?_,
    ?_, ?_, outcome_either_order hshown hshownFirst hloaded hapart, ?_, ?_⟩
  · rw [hshownFirst.queued, hshown.queued, List.filter_nil]
  · rw [hshownFirst.cursor, hshownLast.cursor, hloaded.cursor, hshown.layout]
  · rw [hshownFirst.noMore, hshownLast.noMore, hloaded.noMore, hshown.layout, hranOut]
  · rw [hshownFirst.trigger, hshownLast.trigger, hloaded.trigger, hshown.layout, hranOut,
      hshown.trigger]
  · rw [hshownLast.count, hshown.count, queued_loaded hloaded hapart]
  · intro hitems
    have hsome : 0 < f.listing.size := by
      rw [items, ne_eq, List.map_eq_nil_iff] at hitems
      exact List.length_pos_iff.mpr hitems
    have hlive := ((isAwaited_eq_true_iff f request).mp hawaited).1
    have hfirst : shownFirst.2.tornDown = false := by
      rw [hshownFirst.tornDown, hshown.tornDown, hlive]
    have hlast : shownLast.2.tornDown = false := by
      rw [hshownLast.tornDown, hloaded.tornDown, hlive]
    rw [focusedKey_eq hfirst, focusedKey_eq hlast, Focus.pick_eq, Focus.pick_eq,
      rowKeys_either_order hshown hshownFirst hloaded hshownLast hapart,
      index_either_order hshown hshownFirst hloaded hshownLast hapart hsome]

theorem flush_and_page_in_either_order_past_the_end :
    let f := (snapshotFeed (.page ⟨[⟨1, 0⟩, ⟨2, 0⟩, ⟨3, 0⟩], some "a", none⟩) .reverse).after
      [.navigate .last, .remove 3, .enqueue ⟨4, 0⟩, .enqueue ⟨5, 0⟩, .beginLoad]
    let request : LoadRequest := ⟨some "a", 2, 1⟩
    let page : Page Snapshot := ⟨[⟨7, 0⟩, ⟨1, 6⟩, ⟨8, 0⟩], some "b", none⟩
    let shownFirst := f.flush.2.finishLoad request (.ok page)
    let loaded := f.finishLoad request (.ok page)
    Reachable f ∧ f.isAwaited request = true ∧ (∀ k ∈ page.items.map key, k ∉ f.queued.map key) ∧
      f.items ≠ [] ∧ f.focus.index = f.items.length ∧ f.flush.1 = 2 ∧ loaded.2.flush.1 = 2 ∧
      shownFirst.1 = .loaded 2 1 false ∧ loaded.1 = .loaded 2 1 false ∧
      shownFirst.2.rowKeys = [7, 8, 1, 2, 4, 5] ∧
      shownFirst.2.listing.rows = loaded.2.flush.2.listing.rows ∧
      shownFirst.2.focusedKey = loaded.2.flush.2.focusedKey := by
  intro f request page
  dsimp only
  have h : Reachable f := (Reachable.start (start_snapshotFeed _ _)).after _
  have hawaited : f.isAwaited request = true := by decide
  have hapart : ∀ k ∈ page.items.map key, k ∉ f.queued.map key := by decide
  have hitems : f.items ≠ [] := by decide
  have hcount : f.flush.1 = 2 := by decide
  have hloaded : (f.finishLoad request (.ok page)).1 = .loaded 2 1 false := by decide
  obtain ⟨hrows, -, -, -, -, -, houtcome, hcounts, hfocused⟩ :=
    flush_and_page_in_either_order h hawaited hapart
  exact ⟨h, hawaited, hapart, hitems, by decide, hcount, hcounts.symm.trans hcount,
    houtcome.trans hloaded, hloaded, by decide, hrows, hfocused hitems⟩

end Feed

end FeedReader
