import FeedReader.Proofs.Feed.Trigger
import FeedReader.Session.Loop

/-!
# What a happening changes

Much of what happens to a session moves rows, the focus or what is on show, and leaves
the fetches alone: such a change is calm.  Any other one starts a fetch at its end, or
takes a result first.
-/

namespace FeedReader

/-! ## Operations that no load is part of -/

namespace Feed

variable {α κ ρ ε : Type} [Keyed α κ] [DecidableEq κ]

def Op.IsQuiet : Op α κ ε → Prop
  | .beginLoad | .finishLoad _ _ | .teardown => False
  | .enqueue _ | .flush | .remove _ | .navigate _ | .attach _ => True

structure SameLoad (f g : Feed α κ ρ ε) : Prop where
  generation : g.generation = f.generation
  loading : g.listing.loading = f.listing.loading
  tornDown : g.tornDown = f.tornDown

theorem Step.sameLoad {f g : Feed α κ ρ ε} {op : Op α κ ε} {answer : Answer α}
    (hstep : Step f op answer g) (h : f.Faithful) (hquiet : op.IsQuiet) : SameLoad f g := by
  cases hstep with
  | refused | began | discarded | failed | loaded | alreadyDown | wentDown => exact hquiet.elim
  | showed _ _ hfold =>
      have hrefilled := (h.renewed hfold).refilled
      exact ⟨hrefilled.generation, hrefilled.loading, hrefilled.tornDown⟩
  | _ => exact ⟨rfl, rfl, rfl⟩

theorem Reachable.sameLoad_after {f : Feed α κ ρ ε} (h : Reachable f) {ops : List (Op α κ ε)}
    (hquiet : ∀ op ∈ ops, op.IsQuiet) : SameLoad f (f.after ops) := by
  induction ops generalizing f with
  | nil => exact ⟨rfl, rfl, rfl⟩
  | cons op ops ih =>
      obtain ⟨hop, hops⟩ := List.forall_mem_cons.mp hquiet
      have hone := (h.step op).sameLoad h.faithful hop
      have hrest := ih (h.perform op) hops
      exact ⟨hrest.generation.trans hone.generation, hrest.loading.trans hone.loading,
        hrest.tornDown.trans hone.tornDown⟩

theorem foldl_enqueue (f : Feed α κ ρ ε) (items : List α) :
    items.foldl (fun f item => (f.enqueue item).2) f = f.after (items.map .enqueue) := by
  induction items generalizing f with
  | nil => rfl
  | cons item items ih => exact ih (f.enqueue item).2

end Feed

/-! ## Calm changes -/

namespace Session

structure Calm (s t : Session) : Prop where
  feed : ∃ ops, (∀ op ∈ ops, Feed.Op.IsQuiet op) ∧ t.feed = s.feed.after ops
  loadTask : t.loadTask = s.loadTask
  resyncTask : t.resyncTask = s.resyncTask
  resyncs : t.resyncs = s.resyncs
  orders : t.orders = s.orders

theorem Calm.trans {s t u : Session} (first : Calm s t) (second : Calm t u) : Calm s u := by
  obtain ⟨ops, hops, hfeed⟩ := first.feed
  obtain ⟨more, hmore, hlast⟩ := second.feed
  refine ⟨⟨ops ++ more, ?_, ?_⟩, second.loadTask.trans first.loadTask,
    second.resyncTask.trans first.resyncTask, second.resyncs.trans first.resyncs,
    second.orders.trans first.orders⟩
  · intro op hop
    exact (List.mem_append.mp hop).elim (hops op) (hmore op)
  · rw [hlast, hfeed, Feed.after_append]

theorem calm_of_eq {s t : Session} (hfeed : t.feed = s.feed) (hload : t.loadTask = s.loadTask)
    (hresync : t.resyncTask = s.resyncTask) (hresyncs : t.resyncs = s.resyncs)
    (horders : t.orders = s.orders) : Calm s t :=
  ⟨⟨[], by simp, hfeed⟩, hload, hresync, hresyncs, horders⟩

theorem Calm.refl (s : Session) : Calm s s := calm_of_eq rfl rfl rfl rfl rfl

theorem calm_setStatus (s : Session) (message : String) : Calm s (s.setStatus message) :=
  calm_of_eq rfl rfl rfl rfl rfl

theorem calm_perform (s : Session) (op : Feed.Op Entry String TaskError) (h : op.IsQuiet) :
    Calm s { s with feed := (s.feed.perform op).2 } :=
  ⟨⟨[op], by simp [h], rfl⟩, rfl, rfl, rfl, rfl⟩

theorem calm_navigate (s : Session) (nav : Nav) : Calm s (s.navigate nav) :=
  (s.calm_perform (.navigate nav) trivial).trans (calm_of_eq rfl rfl rfl rfl rfl)

theorem calm_showNew (s : Session) : Calm s s.showNew := by
  have hflush := s.calm_perform .flush trivial
  rw [showNew]
  dsimp only
  split
  · exact hflush.trans (calm_of_eq rfl rfl rfl rfl rfl)
  · exact hflush

theorem calm_removeFocused (s : Session) : Calm s s.removeFocused.2 := by
  rw [removeFocused]
  split
  · exact .refl s
  · next entry _ =>
      have hremove := s.calm_perform (.remove (key entry)) trivial
      rw [Feed.perform] at hremove
      split
      · next feed hnone =>
          rw [hnone] at hremove
          exact hremove
      · next feed hsome =>
          rw [hsome] at hremove
          exact hremove.trans (calm_of_eq rfl rfl rfl rfl rfl)

theorem calm_removeShown (s : Session) : Calm s s.removeShown := by
  have hremoved := s.calm_removeFocused
  rw [removeShown]
  split
  · next hsome =>
      rw [hsome] at hremoved
      exact hremoved.trans (calm_setStatus _ _)
  · next hnone =>
      rw [hnone] at hremoved
      exact hremoved

theorem calm_applyResync (s : Session) (page : Page Entry) : Calm s (s.applyResync page).2 := by
  refine ⟨⟨(oldestFirst s.feed.layout page).map .enqueue, ?_, ?_⟩, rfl, rfl, rfl, rfl⟩
  · intro op hop
    obtain ⟨entry, -, rfl⟩ := List.mem_map.mp hop
    trivial
  · exact Feed.foldl_enqueue _ _

theorem calm_actInHelp (s : Session) (action : Option Keys.Action) :
    Calm s (s.actInHelp action) := by
  rw [actInHelp.eq_def]
  split <;> exact calm_of_eq rfl rfl rfl rfl rfl

theorem calm_tick (s : Session) : Calm s s.tick := by
  rw [tick]
  split <;> exact calm_of_eq rfl rfl rfl rfl rfl

theorem calm_wait (s : Session) (milliseconds : Nat) : Calm s (s.wait milliseconds) := by
  rw [wait, expireStatus]
  cases s.status with
  | none => exact calm_of_eq rfl rfl rfl rfl rfl
  | some message =>
      dsimp only
      split <;> exact calm_of_eq rfl rfl rfl rfl rfl

theorem calm_drawList (s : Session) (now : Time.Instant) (r : Screen.Rect) (c : Screen.Canvas) :
    Calm s (s.drawList now r c).2 := by
  rw [drawList]
  split
  · exact .refl s
  · dsimp only
    split
    · exact calm_of_eq rfl rfl rfl rfl rfl
    · split <;> exact calm_of_eq rfl rfl rfl rfl rfl

theorem eq_or_eq_drawList_of_draw {s t : Session} {now : Time.Instant} {width height : Nat}
    {c : Screen.Canvas} (h : s.draw now width height = some (c, t)) :
    t = s ∨ ∃ r below, t = (s.drawList now r below).2 := by
  rw [draw] at h
  split at h
  · cases h
    exact .inl rfl
  · split at h
    · cases h
      exact .inl rfl
    · rw [drawAll] at h
      dsimp only at h
      split at h
      · obtain ⟨overlay, -, hframe⟩ := Option.map_eq_some_iff.mp h
        cases hframe
        exact .inr ⟨_, _, rfl⟩
      · cases h
        exact .inr ⟨_, _, rfl⟩

theorem calm_draw {s t : Session} {now : Time.Instant} {width height : Nat} {c : Screen.Canvas}
    (h : s.draw now width height = some (c, t)) : Calm s t := by
  obtain rfl | ⟨r, below, rfl⟩ := eq_or_eq_drawList_of_draw h
  · exact .refl t
  · exact s.calm_drawList now r below

theorem Calm.sameLoad {s t : Session} (h : Calm s t) (hfeed : s.feed.Reachable) :
    Feed.SameLoad s.feed t.feed := by
  obtain ⟨ops, hops, heq⟩ := h.feed
  rw [heq]
  exact hfeed.sameLoad_after hops

theorem Calm.reachable {s t : Session} (h : Calm s t) (hfeed : s.feed.Reachable) :
    t.feed.Reachable := by
  obtain ⟨ops, -, heq⟩ := h.feed
  rw [heq]
  exact hfeed.after ops

/-! ## Changes that start a fetch -/

theorem startLoad_of_not_ready {s : Session} (h : s.feed.ready = false) :
    s.startLoad = (false, s) := by
  rw [startLoad, Feed.beginLoad_eq, h]
  rfl

structure LoadStarted (s t : Session) : Prop where
  feed : t.feed = s.feed.beginLoad.2
  loading : t.feed.listing.loading = true
  generation : t.feed.generation = s.feed.nextRequest.generation
  tornDown : t.feed.tornDown = s.feed.tornDown
  loadTask : t.loadTask = some s.feed.nextRequest
  resyncTask : t.resyncTask = s.resyncTask
  resyncs : t.resyncs = s.resyncs
  orders : t.orders = s.orders ++ [.start (.load s.feed.nextRequest)]

theorem loadStarted {s : Session} (h : s.feed.ready = true) : LoadStarted s s.startLoad.2 := by
  rw [startLoad, Feed.beginLoad_eq, h, if_pos rfl]
  refine ⟨?_, rfl, rfl, rfl, rfl, rfl, rfl, rfl⟩
  rw [Feed.beginLoad_eq, h, if_pos rfl]

theorem reachable_startLoad {s : Session} (h : s.feed.Reachable) :
    s.startLoad.2.feed.Reachable := by
  by_cases hready : s.feed.ready = true
  · rw [(loadStarted hready).feed]
    exact h.perform .beginLoad
  · rw [startLoad_of_not_ready (Bool.eq_false_iff.mpr hready)]
    exact h

inductive Change (s : Session) : Session → Prop where
  | calm {t : Session} : Calm s t → Change s t
  | load {t : Session} : Calm s t → t.feed.ready = true → Change s t.startLoad.2
  | resync {t : Session} : Calm s t → Change s t.startResync

theorem Calm.then_startLoad {s t : Session} (h : Calm s t) : Change s t.startLoad.2 := by
  by_cases hready : t.feed.ready = true
  · exact .load h hready
  · rw [startLoad_of_not_ready (Bool.eq_false_iff.mpr hready)]
    exact .calm h

theorem Calm.then_load_if {s t : Session} (h : Calm s t) (wanted : Bool) :
    Change s (if wanted then t.startLoad.2 else t) := by
  cases wanted with
  | false => exact .calm h
  | true => exact h.then_startLoad

theorem change_loadMore (s : Session) : Change s s.loadMore := by
  rw [loadMore]
  split
  · exact .calm (calm_setStatus _ _)
  · exact (Calm.refl s).then_startLoad

theorem change_act (s : Session) (action : Keys.Action) : Change s (s.act action) := by
  cases action with
  | next | prev | first | last => exact (s.calm_navigate _).then_load_if _
  | flush => exact .calm s.calm_showNew
  | loadMore => exact s.change_loadMore
  | remove => exact .calm s.calm_removeShown
  | resync => exact .resync (calm_setStatus _ _)
  | showHelp => exact .calm (calm_of_eq rfl rfl rfl rfl rfl)
  | quit | back => exact .calm (.refl s)

theorem change_press (s : Session) (key : Keys.Key) : Change s (s.press key).2 := by
  rw [press]
  split
  · exact .calm (s.calm_actInHelp _)
  · split
    · exact .calm (.refl s)
    · exact s.change_act _
    · exact .calm (.refl s)

theorem change_liveEvent (s : Session) (event : Live.LiveEvent) : Change s (s.liveEvent event) := by
  cases event with
  | connected => exact .calm (calm_of_eq rfl rfl rfl rfl rfl)
  | item entry => exact .calm (s.calm_perform (.enqueue entry) trivial)
  | disconnected reason retryIn => exact .calm (calm_of_eq rfl rfl rfl rfl rfl)
  | reconnected => exact .resync (calm_of_eq rfl rfl rfl rfl rfl)

theorem Change.of_calm {s t u : Session} (h : Calm s t) (hchange : Change t u) : Change s u := by
  cases hchange with
  | calm hcalm => exact .calm (h.trans hcalm)
  | load hcalm hready => exact .load (h.trans hcalm) hready
  | resync hcalm => exact .resync (h.trans hcalm)

/-! ## Changes that take a result -/

def settled (s : Session) (request : LoadRequest) (result : PageResult) : Session :=
  (s.finishLoad request result).2

theorem change_pageLoaded (s : Session) (request : LoadRequest) (result : PageResult) :
    Change (s.settled request result) (s.pageLoaded request result) :=
  (Calm.refl _).then_load_if _

theorem calm_resyncLoaded (s : Session) (result : PageResult) :
    Calm { s with resyncTask := none } (s.resyncLoaded result) := by
  rw [resyncLoaded.eq_def]
  dsimp only
  split
  · exact (calm_applyResync _ _).trans (calm_of_eq rfl rfl rfl rfl rfl)
  · exact calm_setStatus _ _

structure Settled (s : Session) (request : LoadRequest) (result : PageResult) (t : Session) :
    Prop where
  feed : t.feed = (s.feed.finishLoad request result).2
  loadTask : t.loadTask = none
  resyncTask : t.resyncTask = s.resyncTask
  resyncs : t.resyncs = s.resyncs
  orders : t.orders = s.orders

theorem settled_settled (s : Session) (request : LoadRequest) (result : PageResult) :
    Settled s request result (s.settled request result) := by
  rw [settled, finishLoad]
  dsimp only
  split <;> exact ⟨rfl, rfl, rfl, rfl, rfl⟩

theorem Settled.reachable {s t : Session} {request : LoadRequest} {result : PageResult}
    (h : Settled s request result t) (hfeed : s.feed.Reachable) : t.feed.Reachable := by
  rw [h.feed]
  exact hfeed.perform (.finishLoad request result)

/-! ## At the start -/

structure Started (s : Session) : Prop where
  feed : ∃ seed options, Feed.start seed options = .ok s.feed
  loadTask : s.loadTask = none
  resyncTask : s.resyncTask = none
  resyncs : s.resyncs = 0
  orders : s.orders = []

theorem exists_feed_of_start {resource : Resource} {seed : Seed Entry} {settings : Settings}
    {s : Session} (h : Session.start resource seed settings = .ok s) :
    ∃ feed keymap, Feed.start seed (feedOptions resource settings) = .ok feed ∧
      s = ({ resource, feed, keymap : Session }).syncScroll := by
  rw [start] at h
  cases hfeed : Feed.start (ε := TaskError) seed (feedOptions resource settings) with
  | error fault =>
      rw [hfeed] at h
      contradiction
  | ok feed =>
      rw [hfeed] at h
      exact ⟨feed, _, rfl, (Except.ok.inj h).symm⟩

theorem started {resource : Resource} {seed : Seed Entry} {settings : Settings} {s : Session}
    (h : Session.start resource seed settings = .ok s) : Started s := by
  obtain ⟨feed, keymap, hfeed, rfl⟩ := exists_feed_of_start h
  exact ⟨⟨seed, _, hfeed⟩, rfl, rfl, rfl, rfl⟩

end Session

end FeedReader
