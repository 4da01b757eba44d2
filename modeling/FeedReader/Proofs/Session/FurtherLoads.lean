import Mathlib.Data.Fintype.EquivFin
import FeedReader.Proofs.Feed.OlderEnd
import FeedReader.Proofs.Session.OneLoad

/-!
# Loads that follow one another

A page that leaves the older end within reach starts the next load by itself.  With each
page the focus gets further away from that end, so the chain ends, unless the index goes
along with the new rows: then it goes on for as long as the server has more.
-/

namespace FeedReader

namespace Session

open Feed (Grown PageTaken)

/-! ## Answers to the load under way -/

def answer (s : Session) (result : PageResult) : Session :=
  match s.loadTask with
  | none => s
  | some request => s.marked.handle (.older request result)

def answered (s : Session) (results : List PageResult) : Session := results.foldl answer s

theorem answered_of_idle {s : Session} (h : s.loadTask = none) (results : List PageResult) :
    s.answered results = s := by
  induction results with
  | nil => rfl
  | cons result results ih =>
      have hsame : s.answer result = s := by rw [answer, h]
      rw [answered, List.foldl_cons, hsame]
      exact ih

structure Awaiting (s : Session) (request : LoadRequest) : Prop where
  loadTask : s.loadTask = some request
  awaited : s.feed.isAwaited request = true
  feed : s.feed.Reachable

theorem Awaiting.pageTaken {s : Session} {request : LoadRequest} (h : s.Awaiting request)
    (page : Page Entry) :
    PageTaken s.feed page (s.feed.finishLoad request (.ok page)).1
      (s.feed.finishLoad request (.ok page)).2 :=
  (h.feed.step (.finishLoad request (.ok page))).pageTaken h.feed.faithful h.awaited

theorem Awaiting.addedRows_eq {s : Session} {request : LoadRequest} (h : s.Awaiting request)
    (page : Page Entry) :
    addedRows (s.feed.finishLoad request (.ok page)).1 =
      (unseen s.feed.rowKeys page.items).length := by
  obtain ⟨merged, noMore, houtcome⟩ := (h.pageTaken page).outcome
  rw [houtcome]
  rfl

theorem Awaiting.answer_eq {s : Session} {request : LoadRequest} (h : s.Awaiting request)
    (result : PageResult) :
    s.answer result =
      if 0 < addedRows (s.feed.finishLoad request result).1 &&
        (s.feed.finishLoad request result).2.sentinelVisible
      then (s.marked.settled request result).startLoad.2 else s.marked.settled request result := by
  have hfeed := (settled_settled s.marked request result).feed
  rw [answer, h.loadTask]
  dsimp only
  rw [handle, pageLoaded]
  dsimp only
  rw [← settled, hfeed]
  rfl

theorem Awaiting.startLoad {s : Session} {request : LoadRequest} (h : s.Awaiting request)
    {result : PageResult}
    (hvisible : (s.feed.finishLoad request result).2.sentinelVisible = true) :
    let t := (s.marked.settled request result).startLoad.2
    t.feed = (s.feed.finishLoad request result).2.beginLoad.2 ∧
      t.Awaiting (s.feed.finishLoad request result).2.nextRequest ∧
      t.startedLoads.length = s.startedLoads.length + 1 := by
  intro t
  have hsettled := settled_settled s.marked request result
  have hfeed : (s.marked.settled request result).feed = (s.feed.finishLoad request result).2 :=
    hsettled.feed
  have hreach : (s.marked.settled request result).feed.Reachable := hsettled.reachable h.feed
  have hready : (s.marked.settled request result).feed.ready = true := by
    obtain ⟨hloading, htrigger, -⟩ := (Feed.sentinelVisible_iff _).mp hvisible
    rw [hfeed]
    exact (hfeed ▸ hreach.latched).ready_iff.mpr ⟨⟨.sentinel, htrigger⟩, hloading⟩
  have hload := loadStarted hready
  refine ⟨hload.feed.trans (by rw [hfeed]), ⟨hload.loadTask.trans (by rw [hfeed]), ?_,
    reachable_startLoad hreach⟩, ?_⟩
  · have hlive : (s.marked.settled request result).feed.tornDown = false := by
      rw [hfeed]
      have hfinished :=
        (h.feed.step (.finishLoad request result)).finished h.feed.faithful h.awaited
      exact hfinished.2.trans ((Feed.isAwaited_eq_true_iff _ _).mp h.awaited).1
    rw [Feed.isAwaited_eq_true_iff, ← hfeed]
    exact ⟨hload.tornDown.trans hlive, hload.loading, hload.generation.symm⟩
  · have hstarted : (s.marked.settled request result).startedLoads = s.startedLoads :=
      hsettled.startedLoads
    rw [startedLoads_startLoad hready, hstarted, List.length_append, List.length_singleton]

inductive AnswerTurn (s t : Session) : Prop where
  | ended : t.loadTask = none → t.startedLoads = s.startedLoads → AnswerTurn s t
  | continued {added : Nat} {request : LoadRequest} : 0 < added → Grown s.feed added t.feed →
      s.feed.trigger = .armed .sentinel → t.feed.olderDistance ≤ t.feed.sentinelDistance →
      t.Awaiting request → t.startedLoads.length = s.startedLoads.length + 1 → AnswerTurn s t

theorem Awaiting.answerTurn {s : Session} {request : LoadRequest} (h : s.Awaiting request)
    (result : PageResult) : AnswerTurn s (s.answer result) := by
  rw [h.answer_eq]
  split
  · next hgoes =>
      obtain ⟨hadded, hvisible⟩ := Bool.and_eq_true_iff.mp hgoes
      rw [decide_eq_true_eq] at hadded
      obtain ⟨hfeed, hawaiting, hstarted⟩ := h.startLoad hvisible
      obtain ⟨-, htrigger, -, hreach⟩ := (Feed.sentinelVisible_iff _).mp hvisible
      cases result with
      | error fault =>
          have hfailed : (s.feed.finishLoad request (.error fault)).1 = .failed := by
            rw [Feed.finishLoad, h.awaited]
            rfl
          rw [hfailed] at hadded
          exact absurd hadded (Nat.lt_irrefl 0)
      | ok page =>
          have htaken := h.pageTaken page
          rw [h.addedRows_eq page] at hadded
          have hgrown := htaken.grown.beginLoad
          rw [← hfeed] at hgrown
          refine .continued hadded hgrown ?_ ?_ hawaiting hstarted
          · rw [htaken.trigger] at htrigger
            split at htrigger
            · contradiction
            · exact htrigger
          · rw [hgrown.sentinelDistance, ← htaken.grown.sentinelDistance, hfeed,
              Feed.olderDistance_beginLoad]
            exact hreach
  · have hsettled := settled_settled s.marked request result
    exact .ended hsettled.loadTask hsettled.startedLoads

/-! ## Where the chain ends -/

theorem Awaiting.startedLoads_le {s : Session} {request : LoadRequest} (h : s.Awaiting request)
    (hnot : ¬s.feed.PastOlderEnd) (results : List PageResult) :
    (s.answered results).startedLoads.length ≤ s.startedLoads.length + s.feed.room := by
  induction results generalizing s request with
  | nil => exact Nat.le_add_right _ _
  | cons result results ih =>
      rw [answered, List.foldl_cons]
      cases h.answerTurn result with
      | ended hidle hsame =>
          rw [← answered, answered_of_idle hidle, hsame]
          exact Nat.le_add_right _ _
      | continued hadded hgrown _ hreach hnext hcount =>
          -- The load that starts here is paid for by the room that its page has used up.
          have hfits := h.feed.focusFits
          have hroom := hgrown.room_lt hfits hnot hadded hreach
          have hlater : ¬(s.answer result).feed.PastOlderEnd :=
            fun hpast => hnot ((hgrown.pastOlderEnd_iff hfits).mp hpast)
          have hrest := ih hnext hlater
          rw [answered] at hrest
          omega

theorem Awaiting.startedLoads_of_button {s : Session} {request : LoadRequest}
    (h : s.Awaiting request) (htrigger : s.feed.trigger ≠ .armed .sentinel)
    (results : List PageResult) :
    (s.answered results).startedLoads.length = s.startedLoads.length := by
  cases results with
  | nil => rfl
  | cons result results =>
      rw [answered, List.foldl_cons]
      cases h.answerTurn result with
      | ended hidle hsame => rw [← answered, answered_of_idle hidle, hsame]
      | continued _ _ hsentinel _ _ _ => exact absurd hsentinel htrigger

/-! ## Where it does not -/

theorem exists_further_page (f : EntryFeed) :
    ∃ page : Page Entry, 0 < (unseen f.rowKeys page.items).length ∧
      f.ranOut page.items.length page.endCursor = false := by
  obtain ⟨id, hid⟩ := Infinite.exists_notMem_finset f.rowKeys.toFinset
  rw [List.mem_toFinset] at hid
  refine ⟨⟨List.replicate (f.pageSize + 1) (.user { id, username := id }), none, some id⟩, ?_, ?_⟩
  · have hnew : id ∈ unseen f.rowKeys
        (List.replicate (f.pageSize + 1) (Entry.user { id, username := id })) := by
      rw [mem_unseen]
      exact ⟨hid, List.mem_map.mpr ⟨_, List.mem_replicate.mpr ⟨Nat.succ_ne_zero _, rfl⟩, rfl⟩⟩
    exact List.length_pos_of_mem hnew
  · simp [Feed.ranOut]

structure Chained (s : Session) (request : LoadRequest) : Prop extends Awaiting s request where
  past : s.feed.PastOlderEnd
  sentinel : s.feed.trigger = .armed .sentinel

theorem Chained.answer {s : Session} {request : LoadRequest} (h : s.Chained request) :
    ∃ result next, (s.answer result).Chained next ∧
      (s.answer result).startedLoads.length = s.startedLoads.length + 1 := by
  obtain ⟨page, hadded, hmore⟩ := exists_further_page s.feed
  have hfits := h.feed.focusFits
  have htaken := h.pageTaken page
  have hpast := (htaken.grown.pastOlderEnd_iff hfits).mpr h.past
  have hkept : (s.feed.finishLoad request (.ok page)).2.trigger = .armed .sentinel := by
    have hcursor : page.olderCursor s.feed.layout = page.endCursor := by rw [h.past.1]; rfl
    rw [htaken.trigger, hcursor, hmore, h.sentinel]
    rfl
  have hvisible := (Feed.sentinelVisible_iff _).mpr
    ⟨htaken.loading, hkept, hpast.2.1, hpast.olderDistance_eq ▸ Nat.zero_le _⟩
  obtain ⟨hfeed, hawaiting, hstarted⟩ := h.startLoad hvisible
  have hgrown := htaken.grown.beginLoad
  rw [← hfeed] at hgrown
  refine ⟨.ok page, (s.feed.finishLoad request (.ok page)).2.nextRequest, ?_⟩
  rw [h.answer_eq, h.addedRows_eq, hvisible, Bool.and_true, if_pos (decide_eq_true hadded)]
  refine ⟨⟨hawaiting, (hgrown.pastOlderEnd_iff hfits).mpr h.past, ?_⟩, hstarted⟩
  rw [hfeed, Feed.trigger_beginLoad]
  exact hkept

theorem Chained.exists_answered {s : Session} {request : LoadRequest} (h : s.Chained request)
    (count : Nat) :
    ∃ results, (s.answered results).startedLoads.length = s.startedLoads.length + count := by
  induction count generalizing s request with
  | zero => exact ⟨[], rfl⟩
  | succ count ih =>
      obtain ⟨result, next, hnext, hstarted⟩ := h.answer
      obtain ⟨results, hresults⟩ := ih hnext
      refine ⟨result :: results, ?_⟩
      rw [answered, List.foldl_cons, ← answered]
      omega

end Session

open Session Loop

theorem Loop.Reachable.awaiting {w : Loop} (h : w.Reachable)
    (hloading : w.session.feed.listing.loading = true) :
    ∃ request, w.session.Awaiting request := by
  obtain ⟨handled, hkept⟩ := h.loadKept
  cases hkept.turn with
  | idle hidle _ _ => exact absurd (hidle.symm.trans hloading) Bool.false_ne_true
  | @busy request _ hheld _ hgen =>
      refine ⟨request, hheld, ?_, h.feed⟩
      exact (Feed.isAwaited_eq_true_iff _ _).mpr ⟨hkept.live, hloading, hgen⟩

/--
A chain of loads starts at most one load more than the sentinel looks for rows, whatever
comes in, unless the index was one past the last row when it began: then no number of loads
is too many.
-/
theorem Loop.further_loads_le_iff {w : Loop} (h : w.Reachable)
    (hloading : w.session.feed.listing.loading = true) :
    (∀ results, (w.session.answered results).startedLoads.length ≤
      w.session.startedLoads.length + (w.session.feed.sentinelDistance + 1)) ↔
    ¬(w.session.feed.trigger = .armed .sentinel ∧ w.session.feed.PastOlderEnd) := by
  obtain ⟨request, hawaiting⟩ := h.awaiting hloading
  constructor
  · rintro hfew ⟨hsentinel, hpast⟩
    obtain ⟨results, hmany⟩ := Chained.exists_answered ⟨hawaiting, hpast, hsentinel⟩
      (w.session.feed.sentinelDistance + 2)
    have hle := hfew results
    omega
  · intro hnot results
    by_cases hsentinel : w.session.feed.trigger = .armed .sentinel
    · have hle := hawaiting.startedLoads_le (fun hpast => hnot ⟨hsentinel, hpast⟩) results
      have hroom := w.session.feed.room_le
      omega
    · rw [hawaiting.startedLoads_of_button hsentinel]
      exact Nat.le_add_right _ _

theorem Loop.further_loads_le_at_start :
    let w := Loop.after { session := userSession } [.begun]
    w.Reachable ∧ w.session.feed.listing.loading = true ∧
      ∀ results, (w.session.answered results).startedLoads.length ≤ 5 := by
  intro w
  have h : w.Reachable := (Loop.Reachable.start start_userSession).after [.begun]
  have hloading : w.session.feed.listing.loading = true := by decide
  have hnot : ¬(w.session.feed.trigger = .armed .sentinel ∧ w.session.feed.PastOlderEnd) :=
    fun hpast => absurd hpast.2.2.2 (by decide)
  exact ⟨h, hloading, (further_loads_le_iff h hloading).mpr hnot⟩

/-- The focused last row goes while a load is under way; then every page leads to the next one. -/
theorem Loop.further_loads_without_end :
    let w := Loop.after { session := userSession } [.begun,
      .fetched (.load ⟨some "1", 1, 1⟩) (.ok ⟨[user "b"], none, some "2"⟩), .reported,
      .keyPressed { code := .char 'G' }, .keyPressed { code := .char 'x' }]
    let pages := ["c", "d", "e", "f", "g"].map fun id => .ok ⟨[user id], none, some id⟩
    w.Reachable ∧ w.session.feed.tornDown = false ∧ w.session.feed.listing.loading = true ∧
      w.session.startedLoads.length + (w.session.feed.sentinelDistance + 1) <
        (w.session.answered pages).startedLoads.length := by
  refine ⟨(Loop.Reachable.start start_userSession).after _, ?_⟩
  decide

end FeedReader
