import FeedReader.Proofs.Session.NewestPage

/-!
# The newest page once more

Of every key the last entry that arrives decides.  Entries that arrive a second time in the
same order find a row or a place in the queue each, and in the end what is held of every key is
what was held before.  So a page that comes in twice leaves the session as it was after the
first time, but for the rows that are rendered again.
-/

namespace FeedReader

namespace Feed

variable {α κ ρ ε : Type} [Keyed α κ] [DecidableEq κ]

/-! ## What keys and snapshots determine -/

theorem Faithful.rows_and_queue_eq {f g : Feed α κ ρ ε} (hf : f.Faithful) (hg : g.Faithful)
    (hrender : g.render = f.render) (hrows : g.rowKeys = f.rowKeys)
    (hqueue : g.queueKeys = f.queueKeys) (hheld : ∀ k, g.held? k = f.held? k) :
    g.listing.rows = f.listing.rows ∧ g.queued = f.queued := by
  have hrowOf : g.rowOf = f.rowOf := by
    funext item
    simp [rowOf, hrender]
  constructor
  · apply hg.rows_eq_of_keys hrender hheld
    rw [hf.map_some_rows, hrows]
  · have hsome : (g.queued.map f.rowOf).map some = (f.queued.map f.rowOf).map some := by
      rw [hf.map_some_queued, ← hrowOf, hg.map_some_queued, hqueue, hrowOf]
      simp [hheld]
    have hinj : Function.Injective (some ∘ f.rowOf) := by
      intro x y hxy
      exact congrArg Row.item (Option.some.inj hxy)
    simp only [List.map_map] at hsome
    exact List.map_injective_iff.mpr hinj hsome

omit [Keyed α κ] [DecidableEq κ] in
theorem Refilled.eq_of_listing {f g : Feed α κ ρ ε} (h : Refilled f g)
    (hkeys : g.listing.keys = f.listing.keys) (hrows : g.listing.rows = f.listing.rows)
    (hqueue : g.listing.queue = f.listing.queue) : g = { f with log := g.log } := by
  have hlisting : g.listing = f.listing := by
    have hcursor := h.cursor
    have hnoMore := h.noMore
    have hloading := h.loading
    cases hg : g.listing
    cases hf : f.listing
    simp_all
  obtain ⟨⟨⟩⟩ := h
  cases f
  cases g
  simp_all

/-! ## What arrivals leave alone -/

structure Restated (f : Feed α κ ρ ε) (items : List α) (g : Feed α κ ρ ε) : Prop
    extends Refilled f g where
  keys : g.listing.keys = f.listing.keys
  rowKeys : g.rowKeys = f.rowKeys
  log : g.log = f.log ++ (items.filter fun item => key item ∈ f.rowKeys).map .rendered

theorem Step.restated {f g : Feed α κ ρ ε} {item : α} {answer : Answer α}
    (hstep : Step f (.enqueue item) answer g) (hlive : f.tornDown = false) :
    Restated f [item] g := by
  cases hstep with
  | late hdown => simp [hlive] at hdown
  | merged _ hkey =>
      have hrow : key item ∈ f.rowKeys := List.mem_of_getElem? hkey
      refine ⟨⟨⟨rfl, rfl, rfl, rfl, rfl, rfl⟩, rfl, rfl, rfl, rfl, rfl, rfl, rfl, rfl, rfl⟩, rfl,
        rowKeys_refreshed hkey, ?_⟩
      simp [hrow]
  | waited _ hnew _ =>
      refine ⟨⟨⟨rfl, rfl, rfl, rfl, rfl, rfl⟩, rfl, rfl, rfl, rfl, rfl, rfl, rfl, rfl, rfl⟩, rfl,
        rfl, ?_⟩
      simp [hnew]

theorem Restated.append {f g h : Feed α κ ρ ε} {first second : List α}
    (hfirst : Restated f first g) (hsecond : Restated g second h) :
    Restated f (first ++ second) h where
  toRefilled := hfirst.toRefilled.trans hsecond.toRefilled
  keys := hsecond.keys.trans hfirst.keys
  rowKeys := hsecond.rowKeys.trans hfirst.rowKeys
  log := by simp [hsecond.log, hfirst.log, hfirst.rowKeys]

theorem Reachable.restated {f : Feed α κ ρ ε} (h : Reachable f) (hlive : f.tornDown = false)
    (items : List α) : Restated f items (f.after (items.map .enqueue)) := by
  induction items generalizing f with
  | nil => exact ⟨.refl f, rfl, rfl, by simp⟩
  | cons item items ih =>
      have hone := (h.step (.enqueue item)).restated hlive
      exact hone.append (ih (h.perform (.enqueue item)) (hone.tornDown.trans hlive))

/-! ## The same arrivals again -/

theorem latest_latest (k : κ) (held : Option α) (items : List α) :
    latest k (latest k held items) items = latest k held items := by
  unfold latest
  cases (copies k items).getLast? <;> rfl

theorem Enqueued.unseen_eq_nil {f g : Feed α κ ρ ε} {items : List α} (h : Enqueued f items g) :
    unseen g.held items = [] := by
  rw [List.eq_nil_iff_forall_not_mem]
  intro k hk
  obtain ⟨hnew, hitems⟩ := (mem_unseen g.held items k).mp hk
  apply hnew
  rw [mem_held, h.rowKeys, h.queueKeys, List.mem_append, List.mem_reverse, mem_unseen, mem_held]
  tauto

theorem Reachable.after_again {f : Feed α κ ρ ε} (h : Reachable f) (hlive : f.tornDown = false)
    (items : List α) :
    let g := f.after (items.map .enqueue)
    g.after (items.map .enqueue) =
      { g with
        log := g.log ++ (items.filter fun item => key item ∈ f.rowKeys).map .rendered } := by
  intro g
  have hfirst : Enqueued f items g := h.enqueued hlive items
  have hg : Reachable g := h.after _
  have hagain : Enqueued g items (g.after (items.map .enqueue)) := hg.enqueued hfirst.live items
  have hrestated : Restated g items (g.after (items.map .enqueue)) := hg.restated hfirst.live items
  have hqueueKeys : (g.after (items.map .enqueue)).queueKeys = g.queueKeys := by
    rw [hagain.queueKeys, hfirst.unseen_eq_nil]
    rfl
  have hheld : ∀ k, (g.after (items.map .enqueue)).held? k = g.held? k := by
    intro k
    rw [hagain.held?, hfirst.held?, latest_latest]
  obtain ⟨hrows, hqueued⟩ := hg.faithful.rows_and_queue_eq (hg.after _).faithful hrestated.render
    hrestated.rowKeys hqueueKeys hheld
  have hqueue := congrArg Queue.mk hqueued
  rw [hrestated.eq_of_listing hrestated.keys hrows hqueue, hrestated.log, hfirst.rowKeys]

end Feed

/-! ## The newest page -/

namespace Session

theorem applyResync_eq (s : Session) (page : Page Entry) :
    s.applyResync page =
      let feed := s.feed.after ((oldestFirst s.feed.layout page).map .enqueue)
      (feed.queued.length, { s with feed }) := by
  rw [applyResync, Feed.foldl_enqueue]

/--
The newest page moves neither rows nor the focus, and leaves the paging alone.  When it comes in
once more, the same number waits and the session stays as it is; the rows of its keys are
rendered again.
-/
theorem resync_repeated {s : Session} (hreach : s.feed.Reachable)
    (hlive : s.feed.tornDown = false) (page : Page Entry) :
    let once := s.applyResync page
    let shown := (oldestFirst s.feed.layout page).filter fun entry => key entry ∈ s.feed.rowKeys
    once.2.feed.items.map key = s.feed.items.map key ∧
      once.2.feed.focusedKey = s.feed.focusedKey ∧
      once.2.feed.listing.cursor = s.feed.listing.cursor ∧
      once.2.feed.listing.noMore = s.feed.listing.noMore ∧
      once.2.feed.listing.loading = s.feed.listing.loading ∧
      once.2.feed.trigger = s.feed.trigger ∧
      once.2.applyResync page =
        (once.1, { once.2 with feed := { once.2.feed with
          log := once.2.feed.log ++ shown.map .rendered } }) := by
  intro once shown
  have hrestated := hreach.restated hlive (oldestFirst s.feed.layout page)
  have hagain := hreach.after_again hlive (oldestFirst s.feed.layout page)
  have honce := s.applyResync_eq page
  generalize hfeed : s.feed.after ((oldestFirst s.feed.layout page).map .enqueue) = feed at *
  rw [show once = (feed.queued.length, { s with feed }) from honce]
  refine ⟨?_, ?_, hrestated.cursor, hrestated.noMore, hrestated.loading, hrestated.trigger, ?_⟩
  · simp only [Feed.map_key_items, hrestated.rowKeys]
  · rw [Feed.focusedKey_eq (hrestated.tornDown.trans hlive), Feed.focusedKey_eq hlive,
      hrestated.focus, hrestated.rowKeys]
  · -- The layout is the same, so the same entries arrive in the same order.
    have hsame := congrArg (fun layout => feed.after ((oldestFirst layout page).map .enqueue))
      hrestated.layout
    rw [applyResync_eq, hsame.trans hagain]
    rfl

open Loop (user userSession start_userSession)

theorem resync_repeated_with_copies :
    let s := (Loop.after { session := userSession } [.liveEvent (.item (user "c"))]).session
    let page : Page Entry := ⟨[user "b", user "a", .user { id := "b", username := "older" },
      .user { id := "a", username := "older" }, user "c"], none, none⟩
    let once := s.applyResync page
    s.feed.Reachable ∧ s.feed.tornDown = false ∧ once.1 = 2 ∧
      once.2.feed.items = [user "a"] ∧ once.2.feed.queued = [user "b", user "c"] ∧
      (once.2.applyResync page).1 = 2 ∧
      (once.2.applyResync page).2.feed.listing = once.2.feed.listing := by
  intro s page once
  have hreach : s.feed.Reachable := ((Loop.Reachable.start start_userSession).after _).feed
  have hlive : s.feed.tornDown = false := by decide +kernel
  obtain ⟨-, -, -, -, -, -, hagain⟩ := resync_repeated hreach hlive page
  have hcount : once.1 = 2 := by decide +kernel
  have hitems : once.2.feed.items = [user "a"] := by decide +kernel
  have hqueued : once.2.feed.queued = [user "b", user "c"] := by decide +kernel
  have hcount' : (once.2.applyResync page).1 = 2 := by
    rw [hagain]
    dsimp only
    exact hcount
  have hlisting : (once.2.applyResync page).2.feed.listing = once.2.feed.listing := by
    rw [hagain]
  exact ⟨hreach, hlive, hcount, hitems, hqueued, hcount', hlisting⟩

end Session

end FeedReader
