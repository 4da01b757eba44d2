import FeedReader.Proofs.Feed.LoadTurns
import FeedReader.Proofs.Session.Runs

/-!
# The load under way

The feed has a flag for it, the session a handle, and the fetch itself runs or waits in
the channel.  They are set and cleared in different places.  The invariant says that
they are two pictures of one thing: there is no load, or there is one, and whatever
waits for it waits for the same.
-/

namespace FeedReader

def Task.load? : Task → Option LoadRequest
  | .load request => some request
  | .resync _ => none

def TaskOrder.startedLoad? : TaskOrder → Option LoadRequest
  | .start task => task.load?
  | .abort _ => none

def Report.load? : Report → Option LoadRequest
  | .older request _ => some request
  | .newest _ => none

theorem Task.load?_eq_some_iff (task : Task) (request : LoadRequest) :
    task.load? = some request ↔ task = .load request := by
  cases task with
  | load _ => simp [load?]
  | resync _ => simp [load?]

theorem Task.load?_report (task : Task) (result : PageResult) :
    (task.report result).load? = task.load? := by
  cases task <;> rfl

theorem Feed.Step.finished {α κ ρ ε : Type} [Keyed α κ] [DecidableEq κ] {f g : Feed α κ ρ ε}
    {request : LoadRequest} {result : Except ε (Page α)} {answer : Feed.Answer α}
    (hstep : Feed.Step f (.finishLoad request result) answer g) (h : f.Faithful)
    (hawaited : f.isAwaited request = true) :
    g.listing.loading = false ∧ g.tornDown = f.tornDown := by
  cases hstep with
  | discarded hnot => exact absurd (hnot.symm.trans hawaited) Bool.false_ne_true
  | failed _ => exact ⟨rfl, rfl⟩
  | loaded _ hfold =>
      have hrefilled := (h.aged hfold).refilled
      exact ⟨hrefilled.loading, hrefilled.tornDown⟩

/-! ## Sessions -/

namespace Session

def startedLoads (s : Session) : List LoadRequest := s.orders.filterMap TaskOrder.startedLoad?

theorem Calm.startedLoads {s t : Session} (h : Calm s t) : t.startedLoads = s.startedLoads :=
  congrArg (List.filterMap TaskOrder.startedLoad?) h.orders

theorem Settled.startedLoads {s t : Session} {request : LoadRequest} {result : PageResult}
    (h : Settled s request result t) : t.startedLoads = s.startedLoads :=
  congrArg (List.filterMap TaskOrder.startedLoad?) h.orders

theorem startedLoads_startLoad {s : Session} (h : s.feed.ready = true) :
    s.startLoad.2.startedLoads = s.startedLoads ++ [s.feed.nextRequest] := by
  rw [startedLoads, (loadStarted h).orders, List.filterMap_append]
  rfl

theorem startedLoads_startResync (s : Session) : s.startResync.startedLoads = s.startedLoads := by
  rw [startResync, startedLoads, List.filterMap_append, List.filterMap_append]
  cases hheld : s.heldResync <;> simp [startedLoads, TaskOrder.startedLoad?, Task.load?]

end Session

/-! ## Loops -/

namespace Loop

open Session (Calm Settled)

def openLoads (w : Loop) : List LoadRequest :=
  w.running.filterMap Task.load? ++ w.channel.filterMap Report.load?

/-- The load that a happening handles, if it does, with what comes of it. -/
def handles (w : Loop) : Happening → List (LoadRequest × LoadOutcome)
  | .reported =>
      if w.crashed then []
      else
        match w.channel with
        | .older request result :: _ => [(request, (w.session.marked.finishLoad request result).1)]
        | _ => []
  | _ => []

def handledLoads (w : Loop) : List Happening → List (LoadRequest × LoadOutcome)
  | [] => []
  | happening :: happenings => w.handles happening ++ (w.next happening).handledLoads happenings

/-- There is no load, or one that the feed, the session and the fetch agree on. -/
inductive LoadTurn (w : Loop) : Prop where
  | idle : w.session.feed.listing.loading = false → w.session.loadTask = none →
      w.openLoads = [] → LoadTurn w
  | busy {request : LoadRequest} : w.session.feed.listing.loading = true →
      w.session.loadTask = some request → w.openLoads = [request] →
      request.generation = w.session.feed.generation → LoadTurn w

structure LoadKept (handled : List LoadRequest) (w : Loop) : Prop where
  live : w.session.feed.tornDown = false
  started : w.session.startedLoads = handled ++ w.openLoads
  turn : w.LoadTurn

/-! ## What leaves the load alone -/

theorem openLoads_fetched {w : Loop} {task : Task} {result : PageResult}
    (hturn : w.openLoads.length ≤ 1) (htask : task ∈ w.running) :
    Loop.openLoads { w with
      running := w.running.erase task
      channel := w.channel ++ [task.report result] } = w.openLoads := by
  have hchannel : (w.channel ++ [task.report result]).filterMap Report.load? =
      w.channel.filterMap Report.load? ++ task.load?.toList := by
    rw [List.filterMap_append, ← task.load?_report result]
    cases h : (task.report result).load? <;> simp [h]
  rw [openLoads, hchannel]
  cases task with
  | resync number =>
      rw [filterMap_erase_of_none rfl]
      simp [openLoads, Task.load?]
  | load request =>
      have hmem : request ∈ w.running.filterMap Task.load? :=
        List.mem_filterMap.mpr ⟨_, htask, rfl⟩
      rw [filterMap_erase_of_some ((Task.load?_eq_some_iff _ request).mpr rfl)
        (fun other => (other.load?_eq_some_iff request).mp)]
      rw [openLoads, List.length_append] at hturn
      have hpos := List.length_pos_of_mem hmem
      have hone : (w.running.filterMap Task.load?).length = 1 := by omega
      obtain ⟨only, honly⟩ := List.length_eq_one_iff.mp hone
      rw [honly, List.mem_singleton] at hmem
      have hnone : w.channel.filterMap Report.load? = [] :=
        List.length_eq_zero_iff.mp (by omega)
      rw [openLoads, honly, hnone, hmem]
      simp [Task.load?]

theorem filterMap_load_freed (w : Loop) :
    (w.freed w.session.heldResync).filterMap Task.load? = w.running.filterMap Task.load? := by
  rw [freed, Session.heldResync]
  cases w.session.resyncTask with
  | none => rfl
  | some number => exact filterMap_erase_of_none rfl w.running

theorem LoadTurn.length_le {w : Loop} (h : w.LoadTurn) : w.openLoads.length ≤ 1 := by
  cases h with
  | idle _ _ hopen => simp [hopen]
  | busy _ _ hopen _ => simp [hopen]

theorem LoadTurn.congr {v w : Loop} (h : w.LoadTurn)
    (hfeed : Feed.SameLoad w.session.feed v.session.feed)
    (htask : v.session.loadTask = w.session.loadTask) (hopen : v.openLoads = w.openLoads) :
    v.LoadTurn := by
  cases h with
  | idle hloading hnone hno =>
      exact .idle (hfeed.loading.trans hloading) (htask.trans hnone) (hopen.trans hno)
  | busy hloading hsome hone hgen =>
      exact .busy (hfeed.loading.trans hloading) (htask.trans hsome) (hopen.trans hone)
        (hgen.trans hfeed.generation.symm)

theorem LoadKept.congr {v w : Loop} {handled : List LoadRequest} (h : w.LoadKept handled)
    (hfeed : Feed.SameLoad w.session.feed v.session.feed)
    (htask : v.session.loadTask = w.session.loadTask)
    (hstarted : v.session.startedLoads = w.session.startedLoads)
    (hopen : v.openLoads = w.openLoads) : v.LoadKept handled := by
  refine ⟨hfeed.tornDown.trans h.live, ?_, h.turn.congr hfeed htask hopen⟩
  rw [hstarted, hopen]
  exact h.started

/-! ## One step -/

theorem LoadKept.moved {v w : Loop} {handled : List LoadRequest} (h : w.LoadKept handled)
    (hfeed : w.session.feed.Reachable) (hmoved : Moved w v) : v.LoadKept handled := by
  cases hmoved with
  | @calm t hcalm =>
      exact h.congr (hcalm.sameLoad hfeed) hcalm.loadTask hcalm.startedLoads rfl
  | @resync t hcalm =>
      refine h.congr (hcalm.sameLoad hfeed) hcalm.loadTask ?_ ?_
      · exact (Session.startedLoads_startResync t).trans hcalm.startedLoads
      · rw [openLoads, List.filterMap_append, filterMap_load_freed]
        simp [openLoads, Task.load?]
  | @load t hcalm hready =>
      have hsame := hcalm.sameLoad hfeed
      have hidle : w.session.feed.listing.loading = false := by
        rw [← hsame.loading]
        exact (Feed.live_of_ready hready).2
      have hnone : w.openLoads = [] := by
        cases h.turn with
        | idle _ _ hopen => exact hopen
        | busy hloading _ _ _ => exact absurd (hidle.symm.trans hloading) Bool.false_ne_true
      have hopen : Loop.openLoads { w with
          session := t.startLoad.2
          running := w.running ++ [.load t.feed.nextRequest] } = [t.feed.nextRequest] := by
        rw [openLoads, List.append_eq_nil_iff] at hnone
        rw [openLoads, List.filterMap_append, hnone.1, hnone.2]
        rfl
      have hstarted : t.startedLoads = handled := by
        have hbefore := h.started
        rw [hnone, List.append_nil] at hbefore
        exact hcalm.startedLoads.trans hbefore
      have hload := Session.loadStarted hready
      refine ⟨hload.tornDown.trans (hsame.tornDown.trans h.live), ?_,
        .busy hload.loading hload.loadTask hopen hload.generation.symm⟩
      rw [hopen]
      exact (Session.startedLoads_startLoad hready).trans (by rw [hstarted])

theorem handles_eq_nil {w : Loop} {happening : Happening} (h : happening ≠ .reported) :
    w.handles happening = [] := by
  cases happening with
  | reported => contradiction
  | _ => rfl

theorem handles_of_crashed {w : Loop} (h : w.crashed = true) (happening : Happening) :
    w.handles happening = [] := by
  cases happening with
  | reported => rw [handles, if_pos h]
  | _ => rfl

theorem handles_of_idle {w : Loop} (h : w.channel = []) : w.handles .reported = [] := by
  rw [handles, h]
  exact ite_self _

theorem handles_newest {w : Loop} {result : PageResult} {channel : List Report}
    (h : w.channel = .newest result :: channel) : w.handles .reported = [] := by
  rw [handles, h]
  exact ite_self _

theorem handles_older {w : Loop} (hlive : w.crashed = false) {request : LoadRequest}
    {result : PageResult} {channel : List Report}
    (h : w.channel = .older request result :: channel) :
    w.handles .reported = [(request, (w.session.feed.finishLoad request result).1)] := by
  rw [handles, hlive, h]
  rfl

theorem LoadKept.taken {w : Loop} {handled : List LoadRequest} (h : w.LoadKept handled)
    (hfeed : w.session.feed.Reachable) {request : LoadRequest} {result : PageResult}
    {channel : List Report} (hchannel : w.channel = .older request result :: channel) {s : Session}
    (hsettled : Settled w.session request result s) :
    w.session.feed.isAwaited request = true ∧
      Loop.LoadKept (handled ++ [request]) { w with session := s, channel } := by
  have hopen : w.openLoads = w.running.filterMap Task.load? ++
      request :: channel.filterMap Report.load? := by
    rw [openLoads, hchannel]
    rfl
  cases h.turn with
  | idle _ _ hnone =>
      rw [hnone] at hopen
      simp at hopen
  | @busy awaited hloading htask hone hgen =>
      have hrunning : w.running.filterMap Task.load? = [] ∧ request = awaited ∧
          channel.filterMap Report.load? = [] := by
        rw [hone] at hopen
        obtain ⟨hnone, hrest⟩ | ⟨_, hrest, hnil⟩ := List.append_eq_cons_iff.mp hopen.symm
        · exact ⟨hnone, List.cons.inj hrest⟩
        · simp at hnil
      obtain ⟨hrunning, rfl, hrest⟩ := hrunning
      have hawaited : w.session.feed.isAwaited request = true :=
        (Feed.isAwaited_eq_true_iff _ request).mpr ⟨h.live, hloading, hgen⟩
      have hfinished :=
        (hfeed.step (.finishLoad request result)).finished hfeed.faithful hawaited
      have hnone : Loop.openLoads { w with session := s, channel } = [] := by
        rw [openLoads, hrunning, hrest]
        rfl
      refine ⟨hawaited, ?_, ?_, .idle ?_ hsettled.loadTask hnone⟩
      · dsimp only
        rw [hsettled.feed]
        exact hfinished.2.trans h.live
      · have hstarted := h.started
        rw [hone] at hstarted
        rw [hnone, List.append_nil, ← hstarted]
        exact hsettled.startedLoads
      · dsimp only
        rw [hsettled.feed]
        exact hfinished.1

theorem LoadKept.step {v w : Loop} {handled : List LoadRequest} (h : w.LoadKept handled)
    (hfeed : w.session.feed.Reachable) {happening : Happening} (hstep : Step w happening v) :
    v.LoadKept (handled ++ (w.handles happening).map Prod.fst) ∧
      ∀ load ∈ w.handles happening, load.2 ≠ .discarded := by
  cases hstep with
  | ended hended =>
      rw [handles_of_crashed hended]
      exact ⟨by simpa using h, by simp⟩
  | crash =>
      rw [handles_eq_nil Happening.noConfusion]
      have hkept : Loop.LoadKept handled { w with crashed := true } :=
        h.congr ⟨rfl, rfl, rfl⟩ rfl rfl rfl
      exact ⟨by simpa using hkept, by simp⟩
  | changed hother hmoved =>
      rw [handles_eq_nil hother]
      exact ⟨by simpa using h.moved hfeed hmoved, by simp⟩
  | @fetched task result htask =>
      rw [handles_eq_nil Happening.noConfusion]
      have hkept : Loop.LoadKept handled { w with
          running := w.running.erase task
          channel := w.channel ++ [task.report result] } :=
        h.congr ⟨rfl, rfl, rfl⟩ rfl rfl (openLoads_fetched h.turn.length_le htask)
      exact ⟨by simpa using hkept, by simp⟩
  | idle hempty =>
      rw [handles_of_idle hempty]
      exact ⟨by simpa using h, by simp⟩
  | @older request result channel s _ hlive hchannel hsettled hmoved =>
      obtain ⟨hawaited, hkept⟩ := h.taken hfeed hchannel hsettled
      rw [handles_older hlive hchannel]
      refine ⟨hkept.moved (hsettled.reachable hfeed) hmoved, ?_⟩
      intro load hload
      obtain rfl := List.mem_singleton.mp hload
      exact (Feed.finishLoad_discarded _ request result).1.mpr hawaited
  | @newest result channel t _ hchannel hcalm =>
      have hopen : Loop.openLoads { w with session := t, channel } = w.openLoads := by
        rw [openLoads, openLoads, hchannel]
        rfl
      have hstarted : t.startedLoads = w.session.startedLoads := hcalm.startedLoads
      rw [handles_newest hchannel]
      exact ⟨by simpa using h.congr (hcalm.sameLoad hfeed) hcalm.loadTask hstarted hopen, by simp⟩

/-! ## Whole runs -/

theorem LoadKept.start {s : Session} (h : Session.Started s) :
    Loop.LoadKept [] { session := s } := by
  obtain ⟨seed, options, hfeed⟩ := h.feed
  have hstarted := Feed.started hfeed
  refine ⟨hstarted.live, ?_, .idle hstarted.idle h.loadTask rfl⟩
  rw [Session.startedLoads, h.orders]
  rfl

theorem LoadKept.after {w : Loop} {handled : List LoadRequest} (h : w.LoadKept handled)
    (hreach : w.Reachable) (happenings : List Happening) :
    (w.after happenings).LoadKept (handled ++ (w.handledLoads happenings).map Prod.fst) ∧
      ∀ load ∈ w.handledLoads happenings, load.2 ≠ .discarded := by
  induction happenings generalizing w handled with
  | nil =>
      rw [handledLoads, List.map_nil, List.append_nil]
      exact ⟨h, by simp⟩
  | cons happening happenings ih =>
      obtain ⟨hkept, hone⟩ := h.step hreach.feed (step_next w happening)
      obtain ⟨hlast, hrest⟩ := ih hkept (hreach.next happening)
      rw [handledLoads, List.map_append, ← List.append_assoc]
      refine ⟨hlast, ?_⟩
      intro load hload
      exact (List.mem_append.mp hload).elim (hone load) (hrest load)

theorem Reachable.loadKept {w : Loop} (h : w.Reachable) : ∃ handled, w.LoadKept handled := by
  induction h with
  | start hstart => exact ⟨[], .start (Session.started hstart)⟩
  | next happening hreach ih =>
      obtain ⟨handled, hkept⟩ := ih
      exact ⟨_, (hkept.step hreach.feed (step_next _ happening)).1⟩

/--
At any time the feed is loading, the session holds a load and exactly one of the loads
started has not been handled, all three or none of them; there is never another one open,
and no load is handled in vain.
-/
theorem one_open_load {resource : Resource} {seed : Seed Entry} {settings : Settings}
    {s : Session} (hstart : Session.start resource seed settings = .ok s)
    (happenings : List Happening) :
    let w := Loop.after { session := s } happenings
    let handled := Loop.handledLoads { session := s } happenings
    w.session.startedLoads = handled.map Prod.fst ++ w.openLoads ∧
      (w.session.feed.listing.loading = true ↔ w.session.loadTask.isSome = true) ∧
      (w.session.loadTask.isSome = true ↔ w.openLoads.length = 1) ∧
      w.openLoads.length ≤ 1 ∧
      ∀ load ∈ handled, load.2 ≠ .discarded := by
  intro w handled
  obtain ⟨hkept, houtcomes⟩ :=
    (LoadKept.start (Session.started hstart)).after (.start hstart) happenings
  refine ⟨hkept.started, ?_, ?_, hkept.turn.length_le, houtcomes⟩
  · cases hkept.turn with
    | idle hloading hnone _ => simp [w, hloading, hnone]
    | busy hloading hsome _ _ => simp [w, hloading, hsome]
  · cases hkept.turn with
    | idle _ hnone hopen => simp [w, hnone, hopen]
    | busy _ hsome hopen _ => simp [w, hsome, hopen]

theorem one_open_load_of_short_page :
    let happenings := [.begun, .keyPressed { code := .char 'r' },
      .fetched (.load ⟨some "1", 1, 1⟩) (.ok ⟨[user "b"], none, some "2"⟩), .reported]
    let w := Loop.after { session := userSession } happenings
    Session.start (.users none) userSeed { pageSize := 1 } = .ok userSession ∧
      Loop.handledLoads { session := userSession } happenings =
        [(⟨some "1", 1, 1⟩, .loaded 1 0 false)] ∧
      w.openLoads = [⟨some "2", 1, 2⟩] ∧ w.session.feed.listing.loading = true := by
  intro happenings w
  obtain ⟨-, hloading, hheld, -, -⟩ := one_open_load start_userSession happenings
  have hopen : w.openLoads = [⟨some "2", 1, 2⟩] := by decide
  refine ⟨rfl, by decide, hopen, hloading.mpr (hheld.mpr ?_)⟩
  exact congrArg List.length hopen

end Loop

end FeedReader
