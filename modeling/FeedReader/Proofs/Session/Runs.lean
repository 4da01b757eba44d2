import FeedReader.Proofs.Session.Changes

/-!
# Runs of the loop

`Step` lists what each happening does to the loop: to the session, to the fetches that
run and to the channel.  An invariant of the loop is then shown by one case for each
constructor, and whatever runs beside the loop may come in at any time.
-/

namespace FeedReader.Loop

open Session (Calm Change Settled)

/-! ## Following a change -/

theorem follow_eq {w : Loop} {t : Session} {new : List TaskOrder}
    (h : t.orders = w.session.orders ++ new) :
    w.follow t = { w with session := t, running := new.foldl obey w.running } := by
  rw [follow, h, List.drop_left]

theorem follow_eq_of_orders_eq {w : Loop} {t : Session} (h : t.orders = w.session.orders) :
    w.follow t = { w with session := t } := by
  have hnew : t.orders = w.session.orders ++ [] := by rw [h, List.append_nil]
  rw [follow_eq hnew]
  rfl

theorem follow_congr {v w : Loop} (hrunning : v.running = w.running)
    (hchannel : v.channel = w.channel) (hcrashed : v.crashed = w.crashed)
    (horders : v.session.orders = w.session.orders) (t : Session) :
    v.follow t = w.follow t := by
  rw [follow, follow, hrunning, horders]
  congr 1

theorem foldl_obey_abort (running tasks : List Task) :
    (tasks.map .abort).foldl obey running = tasks.foldl List.erase running := by
  rw [List.foldl_map]
  rfl

def freed (w : Loop) (held : List Task) : List Task := held.foldl List.erase w.running

inductive Moved (w : Loop) : Loop → Prop where
  | calm {t : Session} : Calm w.session t → Moved w { w with session := t }
  | load {t : Session} : Calm w.session t → t.feed.ready = true →
      Moved w { w with
        session := t.startLoad.2
        running := w.running ++ [.load t.feed.nextRequest] }
  | resync {t : Session} : Calm w.session t →
      Moved w { w with
        session := t.startResync
        running := w.freed w.session.heldResync ++ [.resync w.session.resyncs] }

theorem moved_follow {w : Loop} {t : Session} (h : Change w.session t) :
    Moved w (w.follow t) := by
  cases h with
  | calm hcalm =>
      rw [follow_eq_of_orders_eq hcalm.orders]
      exact .calm hcalm
  | @load t hcalm hready =>
      have horders : t.startLoad.2.orders =
          w.session.orders ++ [.start (.load t.feed.nextRequest)] := by
        rw [(Session.loadStarted hready).orders, hcalm.orders]
      rw [follow_eq horders]
      exact .load hcalm hready
  | @resync t hcalm =>
      have hheld : t.heldResync = w.session.heldResync := by
        rw [Session.heldResync, Session.heldResync, hcalm.resyncTask]
      have horders : t.startResync.orders = w.session.orders ++
          (w.session.heldResync.map .abort ++ [.start (.resync w.session.resyncs)]) := by
        rw [Session.startResync, hheld, hcalm.orders, hcalm.resyncs, List.append_assoc]
      rw [follow_eq horders, List.foldl_append, foldl_obey_abort]
      exact .resync hcalm

/-! ## Tasks of one kind -/

section Kinds

variable {β : Type} [DecidableEq β] {kind : Task → Option β} {task : Task}

omit [DecidableEq β] in
theorem filterMap_erase_of_none (h : kind task = none) (running : List Task) :
    (running.erase task).filterMap kind = running.filterMap kind := by
  induction running with
  | nil => rfl
  | cons first running ih =>
      by_cases hfirst : first = task
      · rw [hfirst, List.erase_cons_head, List.filterMap_cons_none h]
      · rw [List.erase_cons_tail (by simpa using hfirst), List.filterMap_cons, List.filterMap_cons,
          ih]

theorem filterMap_erase_of_some {b : β} (h : kind task = some b)
    (hinj : ∀ other, kind other = some b → other = task) (running : List Task) :
    (running.erase task).filterMap kind = (running.filterMap kind).erase b := by
  induction running with
  | nil => rfl
  | cons first running ih =>
      by_cases hfirst : first = task
      · rw [hfirst, List.erase_cons_head, List.filterMap_cons_some h, List.erase_cons_head]
      · rw [List.erase_cons_tail (by simpa using hfirst)]
        cases hkind : kind first with
        | none => rw [List.filterMap_cons_none hkind, List.filterMap_cons_none hkind, ih]
        | some c =>
            have hne : c ≠ b := by
              rintro rfl
              exact hfirst (hinj first hkind)
            rw [List.filterMap_cons_some hkind, List.filterMap_cons_some hkind,
              List.erase_cons_tail (by simpa using hne), ih]

end Kinds

/-! ## One happening -/

inductive Step (w : Loop) : Happening → Loop → Prop where
  | ended {happening : Happening} : w.crashed = true → Step w happening w
  | crash {now : Time.Instant} {width height : Nat} :
      Step w (.drawn now width height) { w with crashed := true }
  | changed {happening : Happening} {v : Loop} : happening ≠ .reported → Moved w v →
      Step w happening v
  | fetched {task : Task} {result : PageResult} : task ∈ w.running →
      Step w (.fetched task result)
        { w with running := w.running.erase task, channel := w.channel ++ [task.report result] }
  | idle : w.channel = [] → Step w .reported w
  | older {request : LoadRequest} {result : PageResult} {channel : List Report} {s : Session}
      {v : Loop} : w.crashed = false → w.channel = .older request result :: channel →
      Settled w.session request result s → Moved { w with session := s, channel } v →
      Step w .reported v
  | newest {result : PageResult} {channel : List Report} {t : Session} :
      w.crashed = false → w.channel = .newest result :: channel →
      Calm { w.session with resyncTask := none } t →
      Step w .reported { w with session := t, channel }

section Live

variable {w : Loop} (hlive : w.crashed = false)
include hlive

private theorem step_older {request : LoadRequest} {result : PageResult}
    {channel : List Report} (h : w.channel = .older request result :: channel) :
    Step w .reported ({ w with channel }.follow (w.session.marked.pageLoaded request result)) := by
  have hsettled := Session.settled_settled w.session.marked request result
  have hsame : Settled w.session request result (w.session.marked.settled request result) :=
    ⟨hsettled.feed, hsettled.loadTask, hsettled.resyncTask, hsettled.resyncs, hsettled.orders⟩
  rw [follow_congr
    (v := { w with channel })
    (w := { w with session := w.session.marked.settled request result, channel })
    rfl rfl rfl hsettled.orders.symm]
  exact .older hlive h hsame (moved_follow (Session.change_pageLoaded _ _ _))

private theorem step_newest {result : PageResult} {channel : List Report}
    (h : w.channel = .newest result :: channel) :
    Step w .reported ({ w with channel }.follow (w.session.marked.resyncLoaded result)) := by
  have hmarked : Calm { w.session with resyncTask := none }
      { w.session.marked with resyncTask := none } :=
    Session.calm_of_eq rfl rfl rfl rfl rfl
  have hcalm := hmarked.trans (w.session.marked.calm_resyncLoaded result)
  rw [follow_eq_of_orders_eq (w := { w with channel }) hcalm.orders]
  exact .newest hlive h hcalm

private theorem step_proceed (happening : Happening) : Step w happening (w.proceed happening) := by
  have hmarked : Calm w.session w.session.marked := Session.calm_of_eq rfl rfl rfl rfl rfl
  cases happening with
  | subscribed =>
      refine .changed nofun (moved_follow (.calm ?_))
      exact (w.session.calm_perform (.attach 0) trivial).trans
        (Session.calm_of_eq rfl rfl rfl rfl rfl)
  | begun => exact .changed nofun (moved_follow ((Calm.refl _).then_load_if _))
  | keyPressed key =>
      exact .changed nofun (moved_follow (.of_calm hmarked (Session.change_press _ key)))
  | liveEvent event =>
      exact .changed nofun (moved_follow (.of_calm hmarked (Session.change_liveEvent _ event)))
  | fetched task result =>
      rw [proceed]
      split
      · next hrunning => exact .fetched hrunning
      · exact .changed nofun (.calm (.refl _))
  | reported =>
      rw [proceed]
      cases hchannel : w.channel with
      | nil => exact .idle hchannel
      | cons report channel =>
          cases report with
          | older request result => exact step_older hlive hchannel
          | newest result => exact step_newest hlive hchannel
  | ticked => exact .changed nofun (moved_follow (.calm w.session.calm_tick))
  | waited milliseconds =>
      exact .changed nofun (moved_follow (.calm (w.session.calm_wait milliseconds)))
  | resized => exact .changed nofun (moved_follow (.calm hmarked))
  | drawn now width height =>
      rw [proceed]
      split
      · next hdrawn =>
          refine .changed nofun (moved_follow (.calm ?_))
          exact (Session.calm_draw hdrawn).trans (Session.calm_of_eq rfl rfl rfl rfl rfl)
      · exact .crash

end Live

theorem step_next (w : Loop) (happening : Happening) : Step w happening (w.next happening) := by
  rw [next]
  split
  · next hcrashed => exact .ended hcrashed
  · next hlive => exact step_proceed (Bool.eq_false_iff.mpr hlive) happening

/-! ## Whole runs -/

theorem after_of_next {Kept : Loop → Prop} (hnext : ∀ w happening, Kept w → Kept (w.next happening))
    {w : Loop} (h : Kept w) (happenings : List Happening) : Kept (w.after happenings) := by
  induction happenings generalizing w with
  | nil => exact h
  | cons happening happenings ih => exact ih (hnext w happening h)

inductive Reachable : Loop → Prop where
  | start {resource : Resource} {seed : Seed Entry} {settings : Settings} {s : Session} :
      Session.start resource seed settings = .ok s → Reachable { session := s }
  | next {w : Loop} (happening : Happening) : Reachable w → Reachable (w.next happening)

theorem Reachable.after {w : Loop} (h : Reachable w) (happenings : List Happening) :
    Reachable (w.after happenings) :=
  after_of_next (fun _ happening h => h.next happening) h happenings

theorem after_append (w : Loop) (first second : List Happening) :
    w.after (first ++ second) = (w.after first).after second := by
  induction first generalizing w with
  | nil => rfl
  | cons happening first ih => exact ih (w.next happening)

theorem Moved.reachable {v w : Loop} (h : Moved w v) (hfeed : w.session.feed.Reachable) :
    v.session.feed.Reachable := by
  cases h with
  | calm hcalm => exact hcalm.reachable hfeed
  | load hcalm _ => exact Session.reachable_startLoad (hcalm.reachable hfeed)
  | resync hcalm => exact hcalm.reachable hfeed

theorem Step.reachable {v w : Loop} {happening : Happening} (h : Step w happening v)
    (hfeed : w.session.feed.Reachable) : v.session.feed.Reachable := by
  cases h with
  | changed _ hmoved => exact hmoved.reachable hfeed
  | ended | crash | fetched | idle => exact hfeed
  | older _ _ hsettled hmoved => exact hmoved.reachable (hsettled.reachable hfeed)
  | newest _ _ hcalm => exact hcalm.reachable hfeed

theorem Reachable.feed {w : Loop} (h : Reachable w) : w.session.feed.Reachable := by
  induction h with
  | start hstart =>
      obtain ⟨seed, options, hfeed⟩ := (Session.started hstart).feed
      exact .start hfeed
  | next happening _ ih => exact (step_next _ happening).reachable ih

/-! ## A smallest session -/

def user (id : String) : Entry := .user { id, username := id }

def userSeed : Seed Entry := .page ⟨[user "a"], none, some "1"⟩

def userSession : Session :=
  (Session.start (.users none) userSeed { pageSize := 1 }).toOption.get rfl

theorem start_userSession :
    Session.start (.users none) userSeed { pageSize := 1 } = .ok userSession := rfl

end FeedReader.Loop
