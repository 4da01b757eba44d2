import FeedReader.Proofs.Feed.LiveUpdates

/-!
# A page comes in as one block

The items of a page are taken one by one: each refreshes a row, takes a snapshot off the queue
or adds a row, at a place that depends on how many came before.  What comes of it is one block:
the keys that are new stand together at the older end, in the page's own order, and every row
outside the page stays as it is.  The queue's snapshot is shown for the first copy of its key
only, so a page that repeats the key ends with a copy of its own.
-/

namespace FeedReader.Feed

variable {α κ ρ ε : Type} [Keyed α κ] [DecidableEq κ]

/-! ## Rows and what they hold -/

attribute [ext] Row

theorem Faithful.mem_rows_iff {f : Feed α κ ρ ε} (h : f.Faithful) (row : Row α ρ) :
    row ∈ f.listing.rows ↔
      key row.item ∈ f.rowKeys ∧ f.held? (key row.item) = some row.item ∧
        row.node = f.render row.item := by
  have hheld : ∀ row ∈ f.listing.rows, f.held? (key row.item) = some row.item := by
    intro row hrow
    exact h.held?_of_mem_items (List.mem_map_of_mem hrow)
  constructor
  · intro hrow
    exact ⟨List.mem_map.mpr ⟨row, hrow, rfl⟩, hheld row hrow, h.rendered row hrow⟩
  · rintro ⟨hkey, hitem, hnode⟩
    obtain ⟨other, hother, hsame⟩ := List.mem_map.mp hkey
    have hitems : other.item = row.item := by
      have hfound := hheld other hother
      rw [hsame, hitem] at hfound
      exact (Option.some.inj hfound).symm
    have hnodes : other.node = row.node := by
      rw [h.rendered other hother, hitems, hnode]
    rwa [← Row.ext hitems hnodes]

/-! ## The queue and the log while a page comes in -/

/-- The items with what waits in place of the first copy of its key. -/
def substituted (waiting : List α) : List α → List α
  | [] => []
  | item :: items =>
      (snapshot? waiting (key item)).getD item ::
        substituted (waiting.filter fun x => key x ≠ key item) items

theorem map_key_substituted (waiting items : List α) :
    (substituted waiting items).map key = items.map key := by
  induction items generalizing waiting with
  | nil => rfl
  | cons item items ih =>
      rw [substituted, List.map_cons, List.map_cons, ih]
      cases hwaits : snapshot? waiting (key item) with
      | none => rfl
      | some x => rw [Option.getD_some, key_of_snapshot? hwaits]

theorem log_place (f : Feed α κ ρ ε) (index : Nat) (item : α) :
    (f.place index item).2.log = f.log ++ [.rendered item] := by
  unfold place
  split
  · rfl
  · rfl

theorem queued_absorb {f : Feed α κ ρ ε} (h : f.Faithful) (tally : Tally) (item : α) :
    (absorb (tally, f) item).2.queued = f.queued.filter fun x => key x ≠ key item := by
  rw [absorb_eq]
  dsimp only
  rw [queued, queue_place]
  exact Queue.items_remove h.sound.queue_distinct (key item)

theorem log_absorb (f : Feed α κ ρ ε) (tally : Tally) (item : α) :
    (absorb (tally, f) item).2.log =
      f.log ++ [.rendered ((snapshot? f.queued (key item)).getD item)] := by
  rw [absorb_eq]
  exact log_place _ _ _

theorem queued_foldl_absorb {f : Feed α κ ρ ε} (h : f.Faithful) (tally : Tally)
    (items : List α) :
    (items.foldl absorb (tally, f)).2.queued = f.queued.filter fun x => key x ∉ items.map key := by
  induction items generalizing f tally with
  | nil => simp
  | cons item items ih =>
      have hrest := ih (h.after_absorb tally item) (absorb (tally, f) item).1
      rw [List.foldl_cons, hrest, queued_absorb h, List.filter_filter]
      apply List.filter_congr
      intro x _
      simp [Bool.and_comm]

theorem log_foldl_absorb {f : Feed α κ ρ ε} (h : f.Faithful) (tally : Tally) (items : List α) :
    (items.foldl absorb (tally, f)).2.log =
      f.log ++ (substituted f.queued items).map .rendered := by
  induction items generalizing f tally with
  | nil => exact (List.append_nil _).symm
  | cons item items ih =>
      have hrest := ih (h.after_absorb tally item) (absorb (tally, f) item).1
      rw [List.foldl_cons, hrest, queued_absorb h, log_absorb, List.append_assoc]
      rfl

/-! ## The whole page -/

structure PagePlaced (f : Feed α κ ρ ε) (page : Page α) (outcome : LoadOutcome)
    (g : Feed α κ ρ ε) : Prop where
  outcome : ∃ merged,
    outcome = .loaded (unseen f.rowKeys page.items).length merged
      (f.ranOut page.items.length (page.olderCursor f.layout)) ∧
    (unseen f.rowKeys page.items).length + merged = page.items.length
  rowKeys : g.rowKeys = f.layout.withOlder f.rowKeys (unseen f.rowKeys page.items)
  queued : g.queued = f.queued.filter fun x => key x ∉ page.items.map key
  log : g.log = f.log ++ (substituted f.queued page.items).map .rendered

theorem Step.pagePlaced {f g : Feed α κ ρ ε} {request : LoadRequest} {page : Page α}
    {outcome : LoadOutcome}
    (hstep : Step f (.finishLoad request (.ok page)) (.finished outcome) g) (h : f.Faithful)
    (hawaited : f.isAwaited request = true) : PagePlaced f page outcome g := by
  cases hstep with
  | discarded hnot => exact absurd (hnot.symm.trans hawaited) Bool.false_ne_true
  | @loaded _ _ tally grown _ hfold =>
      have haged := h.aged hfold
      have hrefilled := haged.refilled
      have hgrown : grown = (page.items.foldl absorb ({}, f.idle)).2 := by rw [hfold]
      refine ⟨⟨tally.merged, ?_, ?_⟩, haged.rowKeys, ?_, ?_⟩
      · rw [haged.added, hrefilled.toSameOptions.ranOut_eq]
        rfl
      · rw [← haged.added]
        exact haged.total
      · change grown.queued = _
        rw [hgrown]
        exact queued_foldl_absorb h.idle {} page.items
      · change grown.log = _
        rw [hgrown]
        exact log_foldl_absorb h.idle {} page.items

theorem PagePlaced.mem_rowKeys {f g : Feed α κ ρ ε} {page : Page α} {outcome : LoadOutcome}
    (h : PagePlaced f page outcome g) (k : κ) :
    k ∈ g.rowKeys ↔ k ∈ f.rowKeys ∨ k ∈ page.items.map key := by
  rw [h.rowKeys, Layout.mem_withOlder, mem_unseen]
  tauto

theorem Step.mem_rows_of_page {f g : Feed α κ ρ ε} {request : LoadRequest} {page : Page α}
    {outcome : LoadOutcome}
    (hstep : Step f (.finishLoad request (.ok page)) (.finished outcome) g) (h : f.Faithful)
    (hawaited : f.isAwaited request = true) (row : Row α ρ) :
    let k := key row.item
    row ∈ g.listing.rows ↔ (k ∈ f.rowKeys ∨ k ∈ page.items.map key) ∧
      ((copies k page.items).drop (if k ∈ f.queueKeys then 1 else 0)).getLast?.or (f.held? k) =
        some row.item ∧
      row.node = f.render row.item := by
  intro k
  have hplaced := hstep.pagePlaced h hawaited
  have hfaithful : g.Faithful := h.step hstep
  have houtcome : outcome ≠ .discarded := by
    obtain ⟨merged, rfl, -⟩ := hplaced.outcome
    exact LoadOutcome.noConfusion
  rw [hfaithful.mem_rows_iff, hplaced.mem_rowKeys, hstep.held?_of_page h houtcome,
    (SameOptions.step h hstep).render]

/--
The keys that are new come in as one block at the older end, in the page's order; the page's
keys leave the queue; every other row stays as it is; each item of the page is rendered once,
in order.
-/
theorem page_placed_as_block {f : Feed α κ ρ ε} (h : Reachable f) {request : LoadRequest}
    (hawaited : f.isAwaited request = true) (page : Page α) :
    let g := (f.finishLoad request (.ok page)).2
    let keys := page.items.map key
    let fresh := (keys.filter (· ∉ f.rowKeys)).eraseDups
    (∃ merged, (f.finishLoad request (.ok page)).1 = .loaded fresh.length merged
        (f.ranOut page.items.length (page.olderCursor f.layout)) ∧
      fresh.length + merged = page.items.length) ∧
    g.rowKeys = f.layout.withOlder f.rowKeys fresh ∧
    g.queued = f.queued.filter (fun x => key x ∉ keys) ∧
    (∀ row ∈ f.listing.rows, key row.item ∉ keys → row ∈ g.listing.rows) ∧
    g.log = f.log ++ (substituted f.queued page.items).map .rendered ∧
    (substituted f.queued page.items).map key = keys := by
  intro g keys fresh
  have hstep := h.step (.finishLoad request (.ok page))
  have hplaced := hstep.pagePlaced h.faithful hawaited
  have hfresh : unseen f.rowKeys page.items = fresh := unseen_eq_eraseDups _ _
  obtain ⟨merged, houtcome, hcount⟩ := hplaced.outcome
  rw [hfresh] at houtcome hcount
  refine ⟨⟨merged, houtcome, hcount⟩, ?_, hplaced.queued, ?_, hplaced.log,
    map_key_substituted _ _⟩
  · rw [← hfresh]
    exact hplaced.rowKeys
  · intro row hrow hpage
    obtain ⟨hkey, hheld, hnode⟩ := (h.faithful.mem_rows_iff row).mp hrow
    apply (hstep.mem_rows_of_page h.faithful hawaited row).mpr
    refine ⟨.inl hkey, ?_, hnode⟩
    rw [(copies_eq_nil_iff _ _).mpr hpage, List.drop_nil, List.getLast?_nil, Option.none_or]
    exact hheld

theorem page_placed_among_overlaps :
    let f := (snapshotFeed (.page ⟨[⟨1, 0⟩, ⟨2, 0⟩], some "a", none⟩) .reverse).after
      [.enqueue ⟨3, 1⟩, .enqueue ⟨9, 1⟩, .beginLoad]
    let page := ⟨[⟨5, 0⟩, ⟨3, 0⟩, ⟨2, 7⟩, ⟨5, 1⟩, ⟨3, 2⟩, ⟨6, 0⟩], some "b", none⟩
    let g := (f.finishLoad ⟨some "a", 2, 1⟩ (.ok page)).2
    Reachable f ∧ f.isAwaited ⟨some "a", 2, 1⟩ = true ∧
      g.rowKeys = [5, 3, 6, 1, 2] ∧ g.queued = [⟨9, 1⟩] ∧ ⟨⟨1, 0⟩, 0⟩ ∈ g.listing.rows ∧
      g.log = f.log ++
        [⟨5, 0⟩, ⟨3, 1⟩, ⟨2, 7⟩, ⟨5, 1⟩, ⟨3, 2⟩, ⟨6, 0⟩].map .rendered := by
  intro f page
  have h : Reachable f := (Reachable.start (start_snapshotFeed _ _)).after _
  have hawaited : f.isAwaited ⟨some "a", 2, 1⟩ = true := by decide
  have hrow : f.listing.rows[0]? = some ⟨⟨1, 0⟩, 0⟩ := rfl
  obtain ⟨-, hrows, hqueue, hkept, hlog, -⟩ := page_placed_as_block h hawaited page
  dsimp only
  refine ⟨h, hawaited, hrows.trans (by decide), hqueue.trans (by decide), ?_, hlog.trans ?_⟩
  · exact hkept _ (List.mem_of_getElem? hrow) (by decide)
  · rfl

/-! ## What waited when the page came -/

/-- What the row of a snapshot that waited shows after `items`: the last copy but the first. -/
def shownFor (x : α) (items : List α) : α :=
  ((copies (key x) items).drop 1).getLast?.getD x

theorem shownFor_eq_self_iff {x : α} {items : List α} (h : key x ∈ items.map key) :
    shownFor x items = x ↔
      (copies (key x) items).length = 1 ∨ (copies (key x) items).getLast? = some x := by
  have hcopies : copies (key x) items ≠ [] := by
    rw [ne_eq, copies_eq_nil_iff, not_not]
    exact h
  have hkept := getLast?_drop_one_or_eq_some_iff (copies (key x) items) x
  rwa [Option.or_some, Option.some.injEq, or_iff_right hcopies] at hkept

theorem Step.rows_of_waiting {f g : Feed α κ ρ ε} {request : LoadRequest} {page : Page α}
    {outcome : LoadOutcome}
    (hstep : Step f (.finishLoad request (.ok page)) (.finished outcome) g) (h : f.Faithful)
    (hawaited : f.isAwaited request = true) {x : α} (hwaits : f.waiting? (key x) = some x)
    (hpage : key x ∈ page.items.map key) (row : Row α ρ) :
    row ∈ g.listing.rows ∧ key row.item = key x ↔
      row = ⟨shownFor x page.items, f.render (shownFor x page.items)⟩ := by
  have hform : ∀ row ∈ g.listing.rows, key row.item = key x →
      row = ⟨shownFor x page.items, f.render (shownFor x page.items)⟩ := by
    intro row hrow hkey
    obtain ⟨-, hitem, hnode⟩ := (hstep.mem_rows_of_page h hawaited row).mp hrow
    rw [hkey, if_pos (mem_queueKeys_of_waiting? hwaits), h.held?_of_waiting? hwaits,
      Option.or_some, Option.some.injEq] at hitem
    rw [← hitem] at hnode
    exact Row.ext hitem.symm hnode
  constructor
  · rintro ⟨hrow, hkey⟩
    exact hform row hrow hkey
  · rintro rfl
    have hkey : key x ∈ g.rowKeys :=
      ((hstep.pagePlaced h hawaited).mem_rowKeys (key x)).mpr (.inr hpage)
    obtain ⟨row, hrow, hsame⟩ := List.mem_map.mp hkey
    rw [← hform row hrow hsame]
    exact ⟨hrow, hsame⟩

/--
What waits is shown once the page has a copy of it, exactly if the page has no second copy or
ends its copies with the very same snapshot.  Otherwise the last copy is shown.
-/
theorem queued_snapshot_shown_iff {f : Feed α κ ρ ε} (h : Reachable f) {request : LoadRequest}
    (hawaited : f.isAwaited request = true) (page : Page α) {x : α} (hwaits : x ∈ f.queued)
    (hpage : key x ∈ page.items.map key) :
    let g := (f.finishLoad request (.ok page)).2
    (∀ row, row ∈ g.listing.rows ∧ key row.item = key x ↔
        row = ⟨shownFor x page.items, f.render (shownFor x page.items)⟩) ∧
      (⟨x, f.render x⟩ ∈ g.listing.rows ↔
        (copies (key x) page.items).length = 1 ∨
          (copies (key x) page.items).getLast? = some x) := by
  intro g
  have hrows := (h.step (.finishLoad request (.ok page))).rows_of_waiting h.faithful hawaited
    (h.faithful.waiting?_of_mem_queued hwaits) hpage
  refine ⟨hrows, ?_⟩
  have hrow := hrows ⟨x, f.render x⟩
  rw [and_iff_left rfl, Row.mk.injEq] at hrow
  rw [← shownFor_eq_self_iff hpage]
  apply hrow.trans
  constructor
  · rintro ⟨hitem, -⟩
    exact hitem.symm
  · intro hsame
    rw [hsame]
    exact ⟨rfl, rfl⟩

theorem queued_snapshot_shown_over_copy :
    let f := (snapshotFeed (.page ⟨[⟨1, 0⟩, ⟨2, 0⟩], none, some "a"⟩) .forward).after
      [.enqueue ⟨3, 1⟩, .beginLoad]
    let page := ⟨[⟨3, 0⟩, ⟨4, 0⟩], none, some "b"⟩
    let g := (f.finishLoad ⟨some "a", 2, 1⟩ (.ok page)).2
    Reachable f ∧ f.isAwaited ⟨some "a", 2, 1⟩ = true ∧ ⟨3, 1⟩ ∈ f.queued ∧
      ⟨⟨3, 1⟩, 1⟩ ∈ g.listing.rows := by
  intro f page
  have h : Reachable f := (Reachable.start (start_snapshotFeed _ _)).after _
  have hawaited : f.isAwaited ⟨some "a", 2, 1⟩ = true := by decide
  have hwaits : (⟨3, 1⟩ : Snapshot) ∈ f.queued := by decide
  obtain ⟨-, hshown⟩ := queued_snapshot_shown_iff h hawaited page hwaits (by decide)
  exact ⟨h, hawaited, hwaits, hshown.mpr (.inl (by decide))⟩

/-- The second copy finds the queue without the key, and refreshes the row just placed. -/
theorem queued_snapshot_lost_to_second_copy :
    let f := (snapshotFeed (.page ⟨[⟨1, 0⟩, ⟨2, 0⟩], none, some "a"⟩) .forward).after
      [.enqueue ⟨3, 1⟩, .beginLoad]
    let g := (f.finishLoad ⟨some "a", 2, 1⟩ (.ok ⟨[⟨3, 0⟩, ⟨3, 0⟩], none, some "b"⟩)).2
    Reachable f ∧ f.isAwaited ⟨some "a", 2, 1⟩ = true ∧ ⟨3, 1⟩ ∈ f.queued ∧
      g.rowKeys = [1, 2, 3] ∧ ⟨⟨3, 1⟩, 1⟩ ∉ g.listing.rows := by
  intro f g
  have hitems : g.items = [⟨1, 0⟩, ⟨2, 0⟩, ⟨3, 0⟩] := by decide
  refine ⟨(Reachable.start (start_snapshotFeed _ _)).after _, by decide, by decide, by decide, ?_⟩
  intro hrow
  have hitem : (⟨3, 1⟩ : Snapshot) ∈ g.items := List.mem_map_of_mem hrow
  rw [hitems] at hitem
  contradiction

end FeedReader.Feed
