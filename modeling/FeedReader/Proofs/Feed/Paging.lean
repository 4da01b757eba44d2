import FeedReader.Proofs.Feed.Trigger

/-!
# How far the pages have come

The cursor and the mark that nothing is left are those of the last page that was
applied, the seed standing for a first page.  Nothing else that may be asked of
a feed, teardown apart, touches either of them.
-/

namespace FeedReader

/-- What counts of a page once its items are placed: their number and its older cursor. -/
structure Turn where
  received : Nat
  cursor : Option String
  deriving DecidableEq

def Page.turn {α : Type} (layout : Layout) (page : Page α) : Turn where
  received := page.items.length
  cursor :=
    match layout with
    | .forward => page.endCursor
    | .reverse => page.startCursor

def Seed.turn {α : Type} (layout : Layout) : Seed α → Turn
  | .page first => first.turn layout
  | .bare items => ⟨items.length, none⟩

theorem Page.turn_eq {α : Type} (layout : Layout) (page : Page α) :
    page.turn layout = ⟨page.items.length, page.olderCursor layout⟩ := by
  cases layout <;> rfl

theorem Seed.turn_eq {α : Type} (layout : Layout) (seed : Seed α) :
    seed.turn layout = ⟨seed.items.length, seed.olderCursor layout⟩ := by
  cases seed with
  | page first => exact first.turn_eq layout
  | bare items => rfl

namespace Feed

variable {α κ ρ ε : Type} [Keyed α κ] [DecidableEq κ]

/-! ## What a history says of pages -/

def Event.page? (event : Event α κ ε) : Option (Page α) :=
  match event.op, event.answer with
  | .finishLoad _ (.ok page), .finished (.loaded _ _ _) => some page
  | _, _ => none

def pages (history : List (Event α κ ε)) : List (Page α) :=
  history.filterMap Event.page?

def lastTurn (seed : Seed α) (layout : Layout) (history : List (Event α κ ε)) : Turn :=
  ((pages history).getLast?.map (Page.turn layout)).getD (seed.turn layout)

omit [Keyed α κ] [DecidableEq κ] in
theorem lastTurn_append_singleton (seed : Seed α) (layout : Layout)
    (history : List (Event α κ ε)) (event : Event α κ ε) :
    lastTurn seed layout (history ++ [event]) =
      (event.page?.map (Page.turn layout)).getD (lastTurn seed layout history) := by
  rw [lastTurn, pages, List.filterMap_append]
  cases hpage : event.page? with
  | none =>
      rw [List.filterMap_cons_none hpage, List.filterMap_nil, List.append_nil]
      rfl
  | some page =>
      rw [List.filterMap_cons_some hpage, List.filterMap_nil, List.getLast?_concat]
      rfl

/-! ## One step -/

theorem Step.turn_of_page {f g : Feed α κ ρ ε} {op : Op α κ ε} {answer : Answer α}
    (hstep : Step f op answer g) (h : f.Faithful) (hlatched : f.Latched) {page : Page α}
    (hpage : Event.page? ⟨op, answer⟩ = some page) :
    g.listing.cursor = (page.turn f.layout).cursor ∧
      g.listing.noMore =
        f.ranOut (page.turn f.layout).received (page.turn f.layout).cursor := by
  rw [Page.turn_eq]
  cases hstep with
  | @discarded _ result _ => cases result <;> contradiction
  | @loaded request taken tally grown hawaited hfold =>
      obtain rfl : taken = page := Option.some.inj hpage
      have hrefilled := (h.aged hfold).refilled
      have hbusy := ((f.isAwaited_eq_true_iff request).mp hawaited).2.1
      have hbefore : grown.listing.noMore = false :=
        hrefilled.noMore.trans (hlatched.busy hbusy).1
      refine ⟨rfl, ?_⟩
      change (grown.listing.noMore || grown.ranOut _ _) = _
      rw [hbefore, Bool.false_or, hrefilled.toSameOptions.ranOut_eq]
      rfl
  | _ => contradiction

theorem Step.turn_of_no_page {f g : Feed α κ ρ ε} {op : Op α κ ε} {answer : Answer α}
    (hstep : Step f op answer g) (h : f.Faithful) (hpage : Event.page? ⟨op, answer⟩ = none)
    (hop : op ≠ .teardown) :
    g.listing.cursor = f.listing.cursor ∧ g.listing.noMore = f.listing.noMore := by
  cases hstep with
  | loaded _ _ => contradiction
  | showed _ _ hfold =>
      have hrefilled := (h.renewed hfold).refilled
      exact ⟨hrefilled.cursor, hrefilled.noMore⟩
  | wentDown _ => contradiction
  | _ => exact ⟨rfl, rfl⟩

omit [Keyed α κ] [DecidableEq κ] in
theorem tornDown_teardown (f : Feed α κ ρ ε) : f.teardown.tornDown = true := by
  rw [teardown]
  split
  · next hdown => exact hdown
  · rfl

/-! ## Whole runs -/

variable {seed : Seed α} {options : FeedOptions α ρ} {f : Feed α κ ρ ε}

theorem options_of_start (h : Feed.start seed options = .ok f) :
    f.pageSize = options.pageSize ∧ f.layout = options.layout ∧ f.cursorless = seed.isBare := by
  obtain ⟨render, -, -, rfl⟩ := (start_eq_ok_iff seed options f).mp h
  have hseeded : Seeded render seed options (filled render seed options : Feed α κ ρ ε) :=
    seeded_filled render seed options
  exact ⟨hseeded.refilled.pageSize, hseeded.refilled.layout, hseeded.refilled.cursorless⟩

theorem options_of_run (h : Feed.start seed options = .ok f) (ops : List (Op α κ ε)) :
    (f.after ops).pageSize = options.pageSize ∧ (f.after ops).layout = options.layout ∧
      (f.after ops).cursorless = seed.isBare := by
  have hsame := SameOptions.after (Coherent.start h) ops
  rw [hsame.pageSize, hsame.layout, hsame.cursorless]
  exact options_of_start h

theorem turn_of_start (h : Feed.start seed options = .ok f) :
    f.listing.cursor = (seed.turn options.layout).cursor ∧
      f.listing.noMore =
        f.ranOut (seed.turn options.layout).received (seed.turn options.layout).cursor := by
  rw [Seed.turn_eq]
  obtain ⟨render, -, -, rfl⟩ := (start_eq_ok_iff seed options f).mp h
  have hseeded : Seeded render seed options (filled render seed options : Feed α κ ρ ε) :=
    seeded_filled render seed options
  have hbefore : (filled render seed options : Feed α κ ρ ε).listing.noMore = false :=
    hseeded.refilled.noMore
  refine ⟨rfl, ?_⟩
  dsimp only [turned]
  rw [hbefore, Bool.false_or]
  rfl

theorem turn_of_run (hstart : Feed.start seed options = .ok f) (ops : List (Op α κ ε))
    (hlive : (f.after ops).tornDown = false) :
    let last := lastTurn seed options.layout (f.history ops)
    (f.after ops).listing.cursor = last.cursor ∧
      (f.after ops).listing.noMore = (f.after ops).ranOut last.received last.cursor := by
  induction ops using List.reverseRecOn with
  | nil => exact turn_of_start hstart
  | append_singleton ops op ih =>
      have hreachable := (Reachable.start hstart).after ops
      have hstep := hreachable.step op
      have hsame := SameOptions.step hreachable.faithful hstep
      rw [after_append_singleton] at hlive ⊢
      rw [history_append_singleton, lastTurn_append_singleton]
      dsimp only
      rw [hsame.ranOut_eq]
      cases hpage : Event.page? ⟨op, ((f.after ops).perform op).1⟩ with
      | some page =>
          have hturn := hstep.turn_of_page hreachable.faithful hreachable.latched hpage
          rw [(options_of_run hstart ops).2.1] at hturn
          exact hturn
      | none =>
          have hop : op ≠ .teardown := by
            rintro rfl
            exact Bool.false_ne_true (hlive.symm.trans (tornDown_teardown _))
          obtain ⟨hcursor, hnoMore⟩ := hstep.turn_of_no_page hreachable.faithful hpage hop
          rw [hcursor, hnoMore]
          exact ih (hstep.live hreachable.faithful hlive)

theorem paging_of_run (hstart : Feed.start seed options = .ok f) (ops : List (Op α κ ε))
    (hlive : (f.after ops).tornDown = false) :
    let g := f.after ops
    let last := lastTurn seed options.layout (f.history ops)
    g.listing.cursor = last.cursor ∧
    (∀ request, g.beginLoad.1 = some request →
      request.cursor = last.cursor ∧ request.count = options.pageSize) ∧
    (g.listing.noMore = true ↔
      last.received < options.pageSize ∨ (seed.isBare = false ∧ last.cursor = none)) ∧
    ∀ op, op ≠ .teardown → Event.page? ⟨op, (g.perform op).1⟩ = none →
      (g.perform op).2.listing.cursor = g.listing.cursor ∧
        (g.perform op).2.listing.noMore = g.listing.noMore := by
  intro g last
  have hreachable : Reachable g := (Reachable.start hstart).after ops
  obtain ⟨hcursor, hnoMore⟩ : g.listing.cursor = last.cursor ∧
      g.listing.noMore = g.ranOut last.received last.cursor := turn_of_run hstart ops hlive
  obtain ⟨hpageSize, -, hcursorless⟩ : g.pageSize = options.pageSize ∧
      g.layout = options.layout ∧ g.cursorless = seed.isBare := options_of_run hstart ops
  refine ⟨hcursor, ?_, ?_, ?_⟩
  · intro request hrequest
    obtain ⟨-, rfl⟩ := (beginLoad_eq_some_iff g request).mp hrequest
    exact ⟨hcursor, hpageSize⟩
  · rw [hnoMore, ranOut, hpageSize, hcursorless]
    simp
  · intro op hop hpage
    exact (hreachable.step op).turn_of_no_page hreachable.faithful hpage hop

theorem paging_of_refreshing_page :
    let seed := .page ⟨[⟨1, 0⟩, ⟨1, 5⟩], some "a", some "b"⟩
    let ops := fun cursor => [.beginLoad, .finishLoad ⟨some cursor, 2, 1⟩ (.error ()), .beginLoad,
      .finishLoad ⟨some cursor, 2, 2⟩ (.ok ⟨[⟨1, 6⟩, ⟨1, 7⟩], some "c", none⟩),
      .finishLoad ⟨some cursor, 2, 1⟩ (.ok ⟨[], none, none⟩), .remove 1]
    let f := snapshotFeed seed .reverse
    let g := snapshotFeed seed .forward
    Feed.start seed (snapshotOptions .reverse) = .ok f ∧
      Feed.start seed (snapshotOptions .forward) = .ok g ∧
      (f.after (ops "a")).tornDown = false ∧ (g.after (ops "b")).tornDown = false ∧
      lastTurn seed .reverse (f.history (ops "a")) = ⟨2, some "c"⟩ ∧
      lastTurn seed .forward (g.history (ops "b")) = ⟨2, none⟩ ∧
      ((f.after (ops "a")).listing.cursor = some "c" ∧
        (f.after (ops "a")).listing.noMore = false) ∧
      (g.after (ops "b")).listing.cursor = none ∧ (g.after (ops "b")).listing.noMore = true := by
  intro seed ops f g
  have hreverse : Feed.start seed (snapshotOptions .reverse) = .ok f :=
    start_snapshotFeed seed .reverse
  have hforward : Feed.start seed (snapshotOptions .forward) = .ok g :=
    start_snapshotFeed seed .forward
  have hlive : (f.after (ops "a")).tornDown = false ∧ (g.after (ops "b")).tornDown = false := by
    decide
  have hlast : lastTurn seed .reverse (f.history (ops "a")) = ⟨2, some "c"⟩ ∧
      lastTurn seed .forward (g.history (ops "b")) = ⟨2, none⟩ := by
    decide
  refine ⟨hreverse, hforward, hlive.1, hlive.2, hlast.1, hlast.2, ?_, ?_⟩
  · obtain ⟨hcursor, -, hnoMore, -⟩ := paging_of_run hreverse (ops "a") hlive.1
    rw [show (snapshotOptions .reverse).layout = .reverse from rfl, hlast.1] at hcursor hnoMore
    exact ⟨hcursor, Bool.eq_false_iff.mpr (mt hnoMore.mp (by decide))⟩
  · obtain ⟨hcursor, -, hnoMore, -⟩ := paging_of_run hforward (ops "b") hlive.2
    rw [show (snapshotOptions .forward).layout = .forward from rfl, hlast.2] at hcursor hnoMore
    exact ⟨hcursor, hnoMore.mpr (by decide)⟩

end Feed

end FeedReader
