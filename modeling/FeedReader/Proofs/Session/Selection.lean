import FeedReader.Proofs.Session.Runs

/-!
# The row that the list points at

The list on screen keeps an index of its own beside the focus of the feed, and each
happening that may move the focus points the list at it again.  The main statement is
that the two never differ, whatever is handled in whatever order: arrivals and the start
of a fetch leave the focus where it is, and so does a queue shown that has nothing in it.
-/

namespace FeedReader

/-! ## What leaves the focus alone -/

namespace Feed

variable {α κ ρ ε : Type}

theorem focused_congr {f g : Feed α κ ρ ε} (htornDown : g.tornDown = f.tornDown)
    (hfocus : g.focus = f.focus) (hsize : g.listing.size = f.listing.size) :
    g.focused = f.focused := by
  rw [focused, focused, htornDown, hfocus, hsize]

theorem focused_beginLoad (f : Feed α κ ρ ε) : f.beginLoad.2.focused = f.focused := by
  rw [beginLoad_eq]
  split
  · rfl
  · rfl

theorem focused_attach (f : Feed α κ ρ ε) (resource : Nat) :
    (f.attach resource).focused = f.focused := by
  rw [attach]
  split
  · rfl
  · rfl

variable [Keyed α κ] [DecidableEq κ]

theorem focused_enqueue (f : Feed α κ ρ ε) (item : α) :
    (f.enqueue item).2.focused = f.focused := by
  rw [enqueue]
  split
  · rfl
  · split
    · exact focused_congr rfl rfl (by simp [Listing.size, Listing.update])
    · split
      · rfl
      · rfl

theorem Step.eq_of_shown_none {f g : Feed α κ ρ ε} (hstep : Step f .flush (.shown 0) g)
    (h : f.Faithful) : g = f := by
  generalize hcount : 0 = count at hstep
  cases hstep with
  | nothingToShow => rfl
  | showed _ hsome hfold =>
      have hadded := (h.renewed hfold).added
      exact absurd (List.length_eq_zero_iff.mp (hcount.trans hadded).symm) hsome

theorem Step.eq_of_dropped_none {f g : Feed α κ ρ ε} {k : κ}
    (hstep : Step f (.remove k) (.dropped none) g) : g = f := by
  cases hstep with
  | kept => rfl

end Feed

namespace Session

def InStep (s : Session) : Prop := s.scroll.selected = s.feed.focused

theorem inStep_syncScroll (s : Session) : s.syncScroll.InStep := rfl

theorem inStep_start {resource : Resource} {seed : Seed Entry} {settings : Settings}
    {s : Session} (h : Session.start resource seed settings = .ok s) : s.InStep := by
  obtain ⟨feed, keymap, -, rfl⟩ := exists_feed_of_start h
  exact inStep_syncScroll { resource, feed, keymap }

theorem InStep.withFeed {s : Session} (h : s.InStep) {feed : EntryFeed}
    (hfocused : feed.focused = s.feed.focused) : InStep { s with feed } :=
  Eq.trans h hfocused.symm

/-! ## Starting fetches -/

theorem InStep.startLoad {s : Session} (h : s.InStep) : s.startLoad.2.InStep := by
  have hfocused := s.feed.focused_beginLoad
  rw [Session.startLoad]
  rcases hload : s.feed.beginLoad with ⟨_ | request, feed⟩
  · rw [hload] at hfocused
    exact h.withFeed hfocused
  · rw [hload] at hfocused
    exact h.withFeed hfocused

theorem InStep.load_if {s : Session} (h : s.InStep) (wanted : Bool) :
    InStep (if wanted then s.startLoad.2 else s) := by
  cases wanted with
  | false => exact h
  | true => exact h.startLoad

/-! ## Keys -/

theorem InStep.showNew {s : Session} (h : s.InStep) (hfeed : s.feed.Reachable) :
    s.showNew.InStep := by
  rw [Session.showNew]
  dsimp only
  split
  · exact inStep_syncScroll { s with feed := s.feed.flush.2 }
  · next hnone =>
      have hflush : Feed.Step s.feed .flush (.shown s.feed.flush.1) s.feed.flush.2 :=
        hfeed.step .flush
      rw [Nat.eq_zero_of_not_pos hnone] at hflush
      exact h.withFeed (congrArg Feed.focused (hflush.eq_of_shown_none hfeed.faithful))

theorem InStep.removeFocused {s : Session} (h : s.InStep) (hfeed : s.feed.Reachable) :
    s.removeFocused.2.InStep := by
  rw [Session.removeFocused]
  split
  · exact h
  · next entry _ =>
      split
      · next feed hnone =>
          have hremove : Feed.Step s.feed (.remove (key entry))
              (.dropped (s.feed.remove (key entry)).1) (s.feed.remove (key entry)).2 :=
            hfeed.step (.remove (key entry))
          rw [hnone] at hremove
          exact h.withFeed (congrArg Feed.focused hremove.eq_of_dropped_none)
      · next feed _ => exact inStep_syncScroll { s with feed }

theorem InStep.removeShown {s : Session} (h : s.InStep) (hfeed : s.feed.Reachable) :
    s.removeShown.InStep := by
  have hremoved := h.removeFocused hfeed
  rw [Session.removeShown]
  split
  · next hsome =>
      rw [hsome] at hremoved
      exact hremoved
  · next hnone =>
      rw [hnone] at hremoved
      exact hremoved

theorem InStep.loadMore {s : Session} (h : s.InStep) : s.loadMore.InStep := by
  rw [Session.loadMore]
  split
  · exact h
  · exact h.startLoad

theorem InStep.act {s : Session} (h : s.InStep) (hfeed : s.feed.Reachable)
    (action : Keys.Action) : (s.act action).InStep := by
  cases action with
  | next | prev | first | last => exact (inStep_syncScroll _).load_if _
  | flush => exact h.showNew hfeed
  | loadMore => exact h.loadMore
  | remove => exact h.removeShown hfeed
  | resync | showHelp | quit | back => exact h

theorem InStep.press {s : Session} (h : s.InStep) (hfeed : s.feed.Reachable)
    (key : Keys.Key) : (s.press key).2.InStep := by
  rw [Session.press]
  split
  · rw [actInHelp.eq_def]
    split <;> exact h
  · split
    · exact h
    · exact h.act hfeed _
    · exact h

/-! ## Results and live events -/

theorem inStep_finishLoad (s : Session) (request : LoadRequest) (result : PageResult) :
    (s.finishLoad request result).2.InStep := by
  rw [Session.finishLoad]
  exact inStep_syncScroll _

theorem InStep.handle {s : Session} (h : s.InStep) (report : Report) :
    (s.handle report).InStep := by
  cases report with
  | older request result => exact (s.inStep_finishLoad request result).load_if _
  | newest result =>
      cases result with
      | ok page => exact inStep_syncScroll _
      | error fault => exact h

theorem InStep.liveEvent {s : Session} (h : s.InStep) (event : Live.LiveEvent) :
    (s.liveEvent event).InStep := by
  cases event with
  | item entry => exact h.withFeed (s.feed.focused_enqueue entry)
  | connected | disconnected _ _ | reconnected => exact h

/-! ## Drawing and time -/

theorem InStep.drawList {s : Session} (h : s.InStep) (now : Time.Instant) (r : Screen.Rect)
    (c : Screen.Canvas) : (s.drawList now r c).2.InStep := by
  rw [Session.drawList]
  split
  · exact h
  · dsimp only
    split
    · exact s.inStep_syncScroll
    · split
      · next hempty =>
          change none = s.feed.focused
          have hnone : s.feed.listing.size = 0 := hempty
          rw [Feed.focused, Focus.current, if_pos hnone, ite_self]
      · exact s.inStep_syncScroll

theorem InStep.draw {s t : Session} (h : s.InStep) {now : Time.Instant} {width height : Nat}
    {c : Screen.Canvas} (hdrawn : s.draw now width height = some (c, t)) : t.InStep := by
  obtain rfl | ⟨r, below, rfl⟩ := eq_or_eq_drawList_of_draw hdrawn
  · exact h
  · exact h.drawList now r below

theorem InStep.tick {s : Session} (h : s.InStep) : s.tick.InStep := by
  rw [Session.tick]
  split
  · exact h
  · exact h

theorem InStep.wait {s : Session} (h : s.InStep) (milliseconds : Nat) :
    (s.wait milliseconds).InStep := by
  rw [Session.wait, expireStatus]
  cases s.status with
  | none => exact h
  | some message =>
      dsimp only
      split <;> exact h

end Session

/-! ## Whole runs -/

namespace Loop

theorem inStep_proceed {w : Loop} (h : w.session.InStep) (hfeed : w.session.feed.Reachable)
    (happening : Happening) : (w.proceed happening).session.InStep := by
  have hmarked : w.session.marked.InStep := h
  cases happening with
  | subscribed => exact h.withFeed (w.session.feed.focused_attach 0)
  | begun => exact h.load_if _
  | keyPressed key => exact hmarked.press hfeed key
  | liveEvent event => exact hmarked.liveEvent event
  | fetched task result =>
      rw [proceed]
      split
      · exact h
      · exact h
  | reported =>
      rw [proceed]
      cases w.channel with
      | nil => exact h
      | cons report channel => exact hmarked.handle report
  | ticked => exact h.tick
  | waited milliseconds => exact h.wait milliseconds
  | resized => exact h
  | drawn now width height =>
      rw [proceed]
      split
      · next c t hdrawn =>
          have hdrawn : t.InStep := h.draw hdrawn
          exact hdrawn
      · exact h

theorem inStep_next {w : Loop} (h : w.session.InStep) (hfeed : w.session.feed.Reachable)
    (happening : Happening) : (w.next happening).session.InStep := by
  rw [next]
  split
  · exact h
  · exact inStep_proceed h hfeed happening

/--
The list points at the focused row after each happening of every run, whatever the keys
are bound to, whatever runs and whatever results wait in the channel to be handled.
-/
theorem selected_eq_focused {resource : Resource} {seed : Seed Entry} {settings : Settings}
    {s : Session} (hstart : Session.start resource seed settings = .ok s)
    (keymap : Keys.Keymap) (running : List Task) (channel : List Report)
    (happenings : List Happening) :
    let w := Loop.after { session := { s with keymap }, running, channel } happenings
    w.session.scroll.selected = w.session.feed.focused := by
  intro w
  obtain ⟨seed, options, hfeed⟩ := (Session.started hstart).feed
  have hnext : ∀ (v : Loop) happening, v.session.InStep ∧ v.session.feed.Reachable →
      (v.next happening).session.InStep ∧ (v.next happening).session.feed.Reachable :=
    fun v happening h => ⟨inStep_next h.1 h.2 happening, (step_next v happening).reachable h.2⟩
  have hfirst : s.InStep := Session.inStep_start hstart
  exact (after_of_next hnext ⟨hfirst, .start hfeed⟩ happenings).1

theorem selected_eq_focused_after_removal :
    let keymap := [('s', .flush), ('e', .last), ('d', .remove)].foldl
      (fun m b => m.bind .everywhere { code := .char b.1 } b.2) ({} : Keys.Keymap)
    let channel := [.older ⟨none, 1, 9⟩ (.ok ⟨[user "z"], none, none⟩)]
    let w := Loop.after { session := { userSession with keymap }, running := [], channel } [
      .reported, .liveEvent (.item (user "b")), .keyPressed { code := .char 's' },
      .keyPressed { code := .char 'e' }, .keyPressed { code := .char 'd' }]
    Session.start (.users none) userSeed { pageSize := 1 } = .ok userSession ∧
      w.session.feed.items = [user "b"] ∧ w.session.scroll.selected = some 0 := by
  dsimp only
  refine ⟨rfl, by decide, ?_⟩
  exact (selected_eq_focused start_userSession _ [] _ _).trans (by decide)

end Loop

end FeedReader
