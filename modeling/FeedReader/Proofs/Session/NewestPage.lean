import FeedReader.Proofs.Feed.Holding
import FeedReader.Proofs.Feed.LiveUpdates
import FeedReader.Proofs.Feed.ShownQueue
import FeedReader.Proofs.Session.Runs

/-!
# The newest page in the queue

The entries of the newest page arrive one by one, the oldest first.  One that has a row
refreshes it, one that waits already keeps its place, and any other comes in front of all
that waits.  So the queue follows the page's order only if what waited of the page were
its oldest entries, in that order; the main statement says that nothing less will do.
-/

namespace FeedReader

theorem filter_append_eq_iff_suffix {κ : Type} [DecidableEq κ] {keys : List κ} (h : keys.Nodup)
    (old : List κ) :
    keys.filter (· ∉ old) ++ old.filter (· ∈ keys) = keys ↔ old.filter (· ∈ keys) <:+ keys := by
  constructor
  · intro heq
    exact ⟨_, heq⟩
  · rintro ⟨first, hsplit⟩
    have hapart := (List.nodup_append'.mp (hsplit ▸ h)).2.2
    have hfirst : first.filter (· ∉ old) = first := by
      apply List.filter_eq_self.mpr
      intro k hk
      have hkey : k ∈ keys := hsplit ▸ List.mem_append_left _ hk
      have hnew : k ∉ old := by
        intro hold
        exact hapart hk (List.mem_filter.mpr ⟨hold, decide_eq_true hkey⟩)
      exact decide_eq_true hnew
    have hlast : (old.filter (· ∈ keys)).filter (· ∉ old) = [] := by
      apply List.filter_eq_nil_iff.mpr
      intro k hk
      simpa using List.mem_of_mem_filter hk
    have hnew : keys.filter (· ∉ old) = first := by
      rw [← hfirst, ← List.append_nil (first.filter _), ← hlast, ← List.filter_append, hsplit]
    rw [hnew, hsplit]

/-! ## One arrival after another -/

namespace Feed

variable {α κ ρ ε : Type} [Keyed α κ] [DecidableEq κ]

structure Enqueued (f : Feed α κ ρ ε) (items : List α) (g : Feed α κ ρ ε) : Prop where
  live : g.tornDown = false
  layout : g.layout = f.layout
  rowKeys : g.rowKeys = f.rowKeys
  queueKeys : g.queueKeys = (unseen f.held items).reverse ++ f.queueKeys
  held? : ∀ k, g.held? k = latest k (f.held? k) items

theorem Step.enqueued {f g : Feed α κ ρ ε} {item : α} {answer : Answer α}
    (hstep : Step f (.enqueue item) answer g) (h : f.Faithful) (hlive : f.tornDown = false) :
    Enqueued f [item] g := by
  have hheld : ∀ k, g.held? k = latest k (f.held? k) [item] := by
    intro k
    rw [hstep.held?_enqueue h hlive, latest_cons]
    rfl
  have hone := unseen_singleton f.held item
  cases hstep with
  | late hdown => exact absurd (hlive.symm.trans hdown) Bool.false_ne_true
  | merged _ hkey =>
      have hrow : key item ∈ f.held := (f.mem_held _).mpr (.inl (List.mem_of_getElem? hkey))
      refine ⟨hlive, rfl, rowKeys_refreshed hkey, ?_, hheld⟩
      rw [hone, if_pos hrow]
      rfl
  | waited _ hnew _ =>
      refine ⟨hlive, rfl, rfl, ?_, hheld⟩
      have hpush : (f.listing.queue.push item).2.keys =
          if key item ∈ f.queueKeys then f.queueKeys else key item :: f.queueKeys :=
        Queue.keys_push f.listing.queue item
      have hsame : key item ∈ f.held ↔ key item ∈ f.queueKeys := by
        rw [mem_held, or_iff_right hnew]
      rw [queueKeys, hpush, hone]
      simp only [hsame]
      split
      · rfl
      · rfl

theorem Enqueued.append {f g h : Feed α κ ρ ε} {first second : List α}
    (hfirst : Enqueued f first g) (hsecond : Enqueued g second h) :
    Enqueued f (first ++ second) h := by
  have hknown : ∀ k ∈ second.map key, (k ∈ g.held ↔ k ∈ f.held ++ unseen f.held first) := by
    intro k _
    rw [mem_held, hfirst.rowKeys, hfirst.queueKeys, List.mem_append, List.mem_append,
      List.mem_reverse, mem_held, or_assoc, or_comm (a := k ∈ unseen f.held first)]
  refine ⟨hsecond.live, hsecond.layout.trans hfirst.layout,
    hsecond.rowKeys.trans hfirst.rowKeys, ?_, ?_⟩
  · rw [hsecond.queueKeys, hfirst.queueKeys, unseen_congr hknown, unseen_append,
      List.reverse_append, List.append_assoc]
  · intro k
    rw [hsecond.held?, hfirst.held?, latest_append]

theorem Reachable.enqueued {f : Feed α κ ρ ε} (h : Reachable f) (hlive : f.tornDown = false)
    (items : List α) : Enqueued f items (f.after (items.map .enqueue)) := by
  induction items generalizing f with
  | nil => exact ⟨hlive, rfl, rfl, rfl, fun _ => rfl⟩
  | cons item items ih =>
      have hone := (h.step (.enqueue item)).enqueued h.faithful hlive
      exact hone.append (ih (h.perform (.enqueue item)) hone.live)

end Feed

/-! ## The newest page -/

namespace Session

def newestFirst (layout : Layout) (page : Page Entry) : List Entry :=
  match layout with
  | .forward => page.items
  | .reverse => page.items.reverse

/-- The entries of the page that have no row, the most recent first. -/
def unshown (s : Session) (page : Page Entry) : List Entry :=
  (newestFirst s.feed.layout page).filter fun entry => key entry ∉ s.feed.rowKeys

/-- What waits of the page are its oldest entries without a row, in the page's order. -/
def OldestWait (s : Session) (page : Page Entry) : Prop :=
  s.feed.queueKeys.filter (· ∈ (s.unshown page).map key) <:+ (s.unshown page).map key

theorem reverse_oldestFirst (layout : Layout) (page : Page Entry) :
    (oldestFirst layout page).reverse = newestFirst layout page := by
  cases layout with
  | forward => exact List.reverse_reverse page.items
  | reverse => rfl

theorem newestFirst_perm (layout : Layout) (page : Page Entry) :
    (newestFirst layout page).Perm page.items := by
  cases layout with
  | forward => exact .refl _
  | reverse => exact List.reverse_perm _

theorem map_key_unshown (s : Session) (page : Page Entry) :
    (s.unshown page).map key =
      ((newestFirst s.feed.layout page).map key).filter (· ∉ s.feed.rowKeys) :=
  map_key_filter (· ∉ s.feed.rowKeys) (newestFirst s.feed.layout page)

theorem map_key_filter_items (s : Session) (page : Page Entry) :
    (page.items.filter fun entry => key entry ∉ s.feed.rowKeys).map key =
      s.feed.layout.withNewer [] ((s.unshown page).map key) := by
  rw [unshown]
  cases s.feed.layout with
  | forward => simp [newestFirst, Layout.withNewer]
  | reverse => simp [newestFirst, Layout.withNewer]

theorem mem_map_key_unshown (s : Session) (page : Page Entry) (k : String) :
    k ∈ (s.unshown page).map key ↔ k ∈ page.items.map key ∧ k ∉ s.feed.rowKeys := by
  rw [map_key_unshown, List.mem_filter, ((newestFirst_perm _ page).map key).mem_iff]
  simp

section Resync

variable {s : Session} (hreach : s.feed.Reachable) (hlive : s.feed.tornDown = false)
  {page : Page Entry} (hkeys : (page.items.map key).Nodup)

include hreach hlive

theorem enqueued_applyResync (page : Page Entry) :
    s.feed.Enqueued (oldestFirst s.feed.layout page) (s.applyResync page).2.feed := by
  have hall := hreach.enqueued hlive (oldestFirst s.feed.layout page)
  rw [← Feed.foldl_enqueue] at hall
  exact hall

include hkeys

theorem queueKeys_applyResync :
    (s.applyResync page).2.feed.queueKeys =
      ((s.unshown page).map key).filter (· ∉ s.feed.queueKeys) ++ s.feed.queueKeys := by
  have hnodup : ((oldestFirst s.feed.layout page).map key).Nodup := by
    rw [← List.nodup_reverse, ← List.map_reverse, reverse_oldestFirst]
    exact ((newestFirst_perm _ page).map key).nodup_iff.mpr hkeys
  rw [(enqueued_applyResync hreach hlive page).queueKeys, unseen_eq_filter hnodup,
    ← List.filter_reverse, ← List.map_reverse, reverse_oldestFirst, map_key_unshown,
    List.filter_filter]
  congr 2
  funext k
  simp [Feed.mem_held, and_comm]

theorem held?_applyResync {entry : Entry} (hentry : entry ∈ page.items) :
    (s.applyResync page).2.feed.held? (key entry) = some entry := by
  have hperm := newestFirst_perm s.feed.layout page
  have hread : snapshot? (newestFirst s.feed.layout page) (key entry) = some entry := by
    rw [snapshot?_perm hperm ((hperm.map key).nodup_iff.mpr hkeys), snapshot?_eq_some_iff hkeys]
    exact ⟨hentry, rfl⟩
  rw [(enqueued_applyResync hreach hlive page).held?, Feed.latest_eq_snapshot?_or,
    reverse_oldestFirst, hread, Option.some_or]

theorem filter_queueKeys_eq_iff :
    (s.applyResync page).2.feed.queueKeys.filter (· ∈ (s.unshown page).map key) =
        (s.unshown page).map key ↔ s.OldestWait page := by
  have hnodup : ((s.unshown page).map key).Nodup := by
    rw [map_key_unshown]
    exact (((newestFirst_perm _ page).map key).nodup_iff.mpr hkeys).filter _
  have hnew : (((s.unshown page).map key).filter (· ∉ s.feed.queueKeys)).filter
      (· ∈ (s.unshown page).map key) =
        ((s.unshown page).map key).filter (· ∉ s.feed.queueKeys) := by
    apply List.filter_eq_self.mpr
    intro k hk
    exact decide_eq_true (List.mem_of_mem_filter hk)
  rw [queueKeys_applyResync hreach hlive hkeys, List.filter_append, hnew]
  exact filter_append_eq_iff_suffix hnodup s.feed.queueKeys

theorem mem_items_of_held? {entry : Entry}
    (hheld : (s.applyResync page).2.feed.held? (key entry) = some entry)
    (hkey : key entry ∈ page.items.map key) : entry ∈ page.items := by
  obtain ⟨fetched, hfetched, hsame⟩ := List.mem_map.mp hkey
  have hpage := held?_applyResync hreach hlive hkeys hfetched
  rw [hsame, hheld] at hpage
  exact Option.some.inj hpage ▸ hfetched

theorem queued_eq_unshown_iff :
    (s.applyResync page).2.feed.queued.filter (fun entry => key entry ∈ page.items.map key) =
      s.unshown page ↔ s.OldestWait page := by
  have hreached := (s.calm_applyResync page).reachable hreach
  have hall := enqueued_applyResync hreach hlive page
  generalize hfeed : (s.applyResync page).2.feed = feed at hreached hall ⊢
  have hpage : feed.queued.filter (fun entry => key entry ∈ page.items.map key) ⊆ page.items := by
    intro entry hentry
    obtain ⟨hwaits, hkey⟩ := List.mem_filter.mp hentry
    have hheld := hreached.faithful.held?_of_mem_queued hwaits
    exact mem_items_of_held? hreach hlive hkeys (hfeed ▸ hheld) (of_decide_eq_true hkey)
  have hunshown : s.unshown page ⊆ page.items := by
    intro entry hentry
    exact (newestFirst_perm _ page).mem_iff.mp (List.mem_of_mem_filter hentry)
  have hsame : ∀ k ∈ feed.queued.map key,
      decide (k ∈ page.items.map key) = decide (k ∈ (s.unshown page).map key) := by
    intro k hk
    have hnew : k ∉ s.feed.rowKeys := hall.rowKeys ▸ hreached.faithful.sound.apart k hk
    simp only [mem_map_key_unshown, hnew, not_false_eq_true, and_true]
  rw [eq_iff_map_key_eq hkeys hpage hunshown, map_key_filter (· ∈ page.items.map key),
    List.filter_congr hsame, ← filter_queueKeys_eq_iff hreach hlive hkeys, hfeed]
  rfl

theorem items_flush_eq_iff :
    (s.applyResync page).2.feed.flush.2.items.filter
        (fun entry => key entry ∈ (s.unshown page).map key) =
      page.items.filter (fun entry => key entry ∉ s.feed.rowKeys) ↔ s.OldestWait page := by
  have hreached := (s.calm_applyResync page).reachable hreach
  have hall := enqueued_applyResync hreach hlive page
  generalize hfeed : (s.applyResync page).2.feed = feed at hreached hall ⊢
  have hflushed : Feed.Flushed feed feed.flush.1 feed.flush.2 := hreached.flushed
  have hpage : feed.flush.2.items.filter (fun entry => key entry ∈ (s.unshown page).map key) ⊆
      page.items := by
    intro entry hentry
    obtain ⟨hrow, hkey⟩ := List.mem_filter.mp hentry
    have hheld : feed.flush.2.held? (key entry) = some entry :=
      hflushed.faithful.held?_of_mem_items hrow
    rw [hflushed.held] at hheld
    exact mem_items_of_held? hreach hlive hkeys (hfeed ▸ hheld)
      ((s.mem_map_key_unshown page _).mp (of_decide_eq_true hkey)).1
  have hold : s.feed.rowKeys.filter (· ∈ (s.unshown page).map key) = [] := by
    apply List.filter_eq_nil_iff.mpr
    intro k hk hunshown
    exact ((s.mem_map_key_unshown page k).mp (of_decide_eq_true hunshown)).2 hk
  rw [eq_iff_map_key_eq hkeys hpage (List.filter_subset_self _), map_key_filter_items,
    map_key_filter (· ∈ (s.unshown page).map key), Feed.map_key_items, hflushed.rowKeys,
    hall.layout, hall.rowKeys, Layout.filter_withNewer, hold, Layout.withNewer_nil_inj,
    ← filter_queueKeys_eq_iff hreach hlive hkeys, hfeed]

end Resync

/--
What waited before keeps its place when the newest page comes in, and the rest of the page
comes before it.  So the page's entries wait in the server's order, and stand in that order
once the queue is shown, exactly if those of them that waited before were the oldest that
have no row, and waited in that order.
-/
theorem resync_in_order_iff {s : Session} (hreach : s.feed.Reachable)
    (hlive : s.feed.tornDown = false) {page : Page Entry} (hkeys : (page.items.map key).Nodup) :
    let feed := (s.applyResync page).2.feed
    feed.queueKeys =
        ((s.unshown page).map key).filter (· ∉ s.feed.queueKeys) ++ s.feed.queueKeys ∧
      (feed.queued.filter (fun entry => key entry ∈ page.items.map key) = s.unshown page ↔
        s.OldestWait page) ∧
      (feed.flush.2.items.filter (fun entry => key entry ∈ (s.unshown page).map key) =
          page.items.filter (fun entry => key entry ∉ s.feed.rowKeys) ↔
        s.OldestWait page) := by
  refine ⟨?_, ?_, ?_⟩
  · exact queueKeys_applyResync hreach hlive hkeys
  · exact queued_eq_unshown_iff hreach hlive hkeys
  · exact items_flush_eq_iff hreach hlive hkeys

open Loop (user userSession start_userSession)

theorem resync_in_order_before_arrival :
    let s := (Loop.after { session := userSession } [.liveEvent (.item (user "b"))]).session
    let page : Page Entry := ⟨[user "c", user "b", user "a"], none, none⟩
    s.feed.Reachable ∧ s.feed.tornDown = false ∧ (page.items.map key).Nodup ∧
      (s.applyResync page).2.feed.queued.filter (fun entry => key entry ∈ page.items.map key) =
        s.unshown page ∧
      s.unshown page = [user "c", user "b"] := by
  dsimp only
  have hreach := ((Loop.Reachable.start start_userSession).after
    [.liveEvent (.item (user "b"))]).feed
  have hkeys : ((Page.mk [user "c", user "b", user "a"] none none).items.map key).Nodup := by decide
  have hinOrder := (resync_in_order_iff hreach rfl hkeys).2.1
  refine ⟨hreach, rfl, hkeys, hinOrder.mpr ⟨["c"], by decide⟩, by decide⟩

/-- One that arrived before the page and is newer than another of its entries ends below it. -/
theorem resync_behind_arrival :
    let w := Loop.after { session := userSession } [.liveEvent (.item (user "c"))]
    let page : Page Entry := ⟨[user "c", user "b"], none, none⟩
    let feed := (w.session.applyResync page).2.feed
    w.Reachable ∧ w.session.feed.tornDown = false ∧ w.session.feed.layout = .forward ∧
      (page.items.map key).Nodup ∧ feed.queued = [user "b", user "c"] ∧
      feed.flush.2.items = [user "b", user "c", user "a"] := by
  dsimp only
  refine ⟨(Loop.Reachable.start start_userSession).after _, rfl, rfl, ?_, ?_, ?_⟩
  · decide
  · decide
  · decide

end Session

end FeedReader
