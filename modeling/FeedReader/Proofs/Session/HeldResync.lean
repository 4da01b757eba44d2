import FeedReader.Proofs.Session.Runs

/-!
# The fetch of the newest page that is held

The report on such a fetch does not say which one it is of.  It may come in when its
fetch has given way to a newer one, and then the session lets go of the newer one: that
one runs on, and nothing can abort it any more.  The main statement is that this is the
only way to lose one.
-/

namespace FeedReader

def Task.resync? : Task → Option Nat
  | .load _ => none
  | .resync number => some number

theorem Task.resync?_eq_some_iff (task : Task) (number : Nat) :
    task.resync? = some number ↔ task = .resync number := by
  cases task with
  | load _ => simp [resync?]
  | resync _ => simp [resync?]

namespace Loop

open Session (Calm Settled)

def resyncs (w : Loop) : List Nat := w.running.filterMap Task.resync?

/-- Whichever fetch of the newest page runs, it is the one that the session holds. -/
def Tracked (w : Loop) : Prop := ∀ number ∈ w.resyncs, w.session.resyncTask = some number

instance (w : Loop) : Decidable w.Tracked :=
  inferInstanceAs (Decidable (∀ number ∈ w.resyncs, w.session.resyncTask = some number))

def orphans (w : Loop) : List Nat :=
  w.resyncs.filter fun number => w.session.resyncTask ≠ some number

theorem tracked_iff (w : Loop) : w.Tracked ↔ w.orphans = [] := by
  simp [Tracked, orphans, List.filter_eq_nil_iff]

structure Numbered (w : Loop) : Prop where
  fresh : ∀ number ∈ w.resyncs, number < w.session.resyncs
  distinct : w.resyncs.Nodup

theorem Numbered.resyncs_freed {w : Loop} (h : w.Numbered) :
    (w.freed w.session.heldResync).filterMap Task.resync? = w.orphans := by
  rw [freed, Session.heldResync, orphans]
  cases w.session.resyncTask with
  | none => simp [resyncs]
  | some held =>
      have hinj := fun other : Task => (other.resync?_eq_some_iff held).mp
      have herase := filterMap_erase_of_some ((Task.resync?_eq_some_iff _ held).mpr rfl) hinj
        w.running
      refine herase.trans ((h.distinct.erase_eq_filter held).trans ?_)
      refine List.filter_congr fun number _ => ?_
      by_cases hsame : number = held
      · simp [hsame]
      · simp [hsame, Ne.symm hsame]

theorem Numbered.length_le_of_tracked {w : Loop} (h : w.Numbered) (htracked : w.Tracked) :
    w.resyncs.length ≤ 1 := by
  cases hresyncs : w.resyncs with
  | nil => simp
  | cons first rest =>
      cases rest with
      | nil => simp
      | cons second rest =>
          have hfirst := htracked first (by simp [hresyncs])
          have hsecond := htracked second (by simp [hresyncs])
          have hdistinct := h.distinct
          rw [hresyncs] at hdistinct
          obtain rfl := Option.some.inj (hfirst.symm.trans hsecond)
          simp at hdistinct

theorem Numbered.of_sublist {v w : Loop} (h : w.Numbered) (hsub : v.resyncs.Sublist w.resyncs)
    (hnumber : v.session.resyncs = w.session.resyncs) : v.Numbered := by
  refine ⟨?_, h.distinct.sublist hsub⟩
  intro number hmem
  rw [hnumber]
  exact h.fresh number (hsub.subset hmem)

theorem Tracked.of_sublist {v w : Loop} (h : w.Tracked) (hsub : v.resyncs.Sublist w.resyncs)
    (hheld : v.session.resyncTask = w.session.resyncTask) : v.Tracked := by
  intro number hmem
  rw [hheld]
  exact h number (hsub.subset hmem)

/-! ## One step -/

def TakesNewest (w : Loop) (happening : Happening) : Prop :=
  w.crashed = false ∧ happening = .reported ∧
    ∃ result channel, w.channel = .newest result :: channel

inductive ResyncTurn (w v : Loop) : Prop where
  | kept : v.resyncs.Sublist w.resyncs → v.session.resyncTask = w.session.resyncTask →
      v.session.resyncs = w.session.resyncs → ResyncTurn w v
  | replaced : v.resyncs = w.orphans ++ [w.session.resyncs] →
      v.session.resyncTask = some w.session.resyncs →
      v.session.resyncs = w.session.resyncs + 1 → ResyncTurn w v

theorem Numbered.turn_of_moved {u v w : Loop} (h : w.Numbered) (hrunning : u.running = w.running)
    (hheld : u.session.resyncTask = w.session.resyncTask)
    (hnumber : u.session.resyncs = w.session.resyncs) (hmoved : Moved u v) : ResyncTurn w v := by
  have hsame : u.resyncs = w.resyncs := by rw [resyncs, resyncs, hrunning]
  cases hmoved with
  | calm hcalm =>
      refine .kept ?_ (hcalm.resyncTask.trans hheld) (hcalm.resyncs.trans hnumber)
      exact hsame ▸ .refl _
  | @load t hcalm hready =>
      have hload := Session.loadStarted hready
      refine .kept ?_ (hload.resyncTask.trans (hcalm.resyncTask.trans hheld))
        (hload.resyncs.trans (hcalm.resyncs.trans hnumber))
      simp [resyncs, Task.resync?, hrunning]
  | @resync t hcalm =>
      have hbefore : u.Numbered := h.of_sublist (hsame ▸ .refl _) hnumber
      have horphans : u.orphans = w.orphans := by rw [orphans, orphans, hsame, hheld]
      have hnext := hcalm.resyncs.trans hnumber
      refine .replaced ?_ (congrArg some hnext) (congrArg (· + 1) hnext)
      rw [resyncs, List.filterMap_append, hbefore.resyncs_freed, horphans, hnumber]
      rfl

theorem Numbered.turn {v w : Loop} (h : w.Numbered) {happening : Happening}
    (hstep : Step w happening v) (hother : ¬w.TakesNewest happening) : ResyncTurn w v := by
  cases hstep with
  | ended | crash => exact .kept (.refl _) rfl rfl
  | changed _ hmoved => exact h.turn_of_moved rfl rfl rfl hmoved
  | @fetched task result htask =>
      refine .kept ?_ rfl rfl
      exact (List.erase_sublist (a := task) (l := w.running)).filterMap Task.resync?
  | idle _ => exact .kept (.refl _) rfl rfl
  | @older request result channel s _ _ hchannel hsettled hmoved =>
      exact h.turn_of_moved (u := { w with session := s, channel }) rfl hsettled.resyncTask
        hsettled.resyncs hmoved
  | newest hlive hchannel _ => exact absurd ⟨hlive, rfl, _, _, hchannel⟩ hother

theorem Step.forgets {v w : Loop} {happening : Happening} (hstep : Step w happening v)
    (htakes : w.TakesNewest happening) : v.resyncs = w.resyncs ∧
      v.session.resyncTask = none ∧ v.session.resyncs = w.session.resyncs := by
  obtain ⟨hlive, rfl, result, channel, hnewest⟩ := htakes
  cases hstep with
  | ended hended => exact absurd (hlive.symm.trans hended) Bool.false_ne_true
  | changed hother _ => contradiction
  | idle hempty => exact absurd (hempty.symm.trans hnewest) (List.cons_ne_nil _ _).symm
  | older _ hchannel _ _ => cases hchannel.symm.trans hnewest
  | newest _ _ hcalm => exact ⟨rfl, hcalm.resyncTask, hcalm.resyncs⟩

theorem Numbered.step {v w : Loop} (h : w.Numbered) {happening : Happening}
    (hstep : Step w happening v) : v.Numbered := by
  by_cases htakes : w.TakesNewest happening
  · obtain ⟨hsame, -, hnumber⟩ := hstep.forgets htakes
    exact h.of_sublist (hsame ▸ .refl _) hnumber
  · cases h.turn hstep htakes with
    | kept hsub _ hnumber => exact h.of_sublist hsub hnumber
    | replaced hresyncs _ hnumber =>
        have hfresh : ∀ number ∈ w.orphans, number < w.session.resyncs := fun number hmem =>
          h.fresh number (List.mem_filter.mp hmem).1
        constructor
        · intro number hmem
          rw [hresyncs, List.mem_append, List.mem_singleton] at hmem
          rw [hnumber]
          rcases hmem with hmem | rfl
          · exact Nat.lt_succ_of_lt (hfresh number hmem)
          · exact Nat.lt_succ_self _
        · rw [hresyncs, List.nodup_append]
          refine ⟨h.distinct.filter _, List.nodup_singleton _, ?_⟩
          intro number hmem last hlast
          rw [List.mem_singleton] at hlast
          have hlt := hfresh number hmem
          omega

theorem Tracked.step_iff {v w : Loop} (htracked : w.Tracked) (h : w.Numbered)
    {happening : Happening} (hstep : Step w happening v) :
    v.Tracked ↔ (w.TakesNewest happening → w.resyncs = []) := by
  by_cases htakes : w.TakesNewest happening
  · obtain ⟨hsame, hnone, -⟩ := hstep.forgets htakes
    rw [Tracked, hsame, hnone]
    simp [htakes, List.eq_nil_iff_forall_not_mem]
  · refine iff_of_true ?_ (fun h => absurd h htakes)
    cases h.turn hstep htakes with
    | kept hsub hheld _ => exact htracked.of_sublist hsub hheld
    | replaced hresyncs hheld _ =>
        intro number hmem
        rw [hresyncs, w.tracked_iff.mp htracked, List.nil_append, List.mem_singleton] at hmem
        rw [hheld, hmem]

/-! ## The end of the loop -/

theorem Numbered.resyncs_teardown {w : Loop} (h : w.Numbered) :
    w.teardown.resyncs = w.orphans := by
  have hload : (w.freed w.session.heldLoad).filterMap Task.resync? = w.resyncs := by
    rw [freed, Session.heldLoad]
    cases w.session.loadTask with
    | none => rfl
    | some request => exact filterMap_erase_of_none rfl w.running
  have hnumbered : Loop.Numbered { w with running := w.freed w.session.heldLoad } :=
    h.of_sublist (by rw [resyncs, hload]) rfl
  have hfreed := hnumbered.resyncs_freed
  rw [orphans, resyncs, hload] at hfreed
  have horders : w.session.teardown.orders =
      w.session.orders ++ (w.session.heldLoad ++ w.session.heldResync).map .abort := rfl
  rw [teardown, follow_eq horders, foldl_obey_abort, List.foldl_append]
  exact hfreed

/-! ## Whole runs -/

theorem Numbered.start {s : Session} : Loop.Numbered { session := s } := by
  constructor
  · intro number hmem
    simp [resyncs] at hmem
  · exact List.nodup_nil

theorem Numbered.after {w : Loop} (h : w.Numbered) (happenings : List Happening) :
    (w.after happenings).Numbered :=
  after_of_next (fun w happening h => h.step (step_next w happening)) h happenings

theorem Tracked.after_iff {w : Loop} (htracked : w.Tracked) (h : w.Numbered)
    (happenings : List Happening) :
    (∀ before, before <+: happenings → (w.after before).Tracked) ↔
      ∀ before happening, before ++ [happening] <+: happenings →
        (w.after before).TakesNewest happening → (w.after before).resyncs = [] := by
  induction happenings using List.reverseRecOn with
  | nil =>
      constructor
      · intro _ before happening hprefix
        simp at hprefix
      · intro _ before hprefix
        rw [List.prefix_nil.mp hprefix]
        exact htracked
  | append_singleton happenings happening ih =>
      have hlast : (w.after (happenings ++ [happening])) = (w.after happenings).next happening :=
        after_append w happenings [happening]
      have hstep := step_next (w.after happenings) happening
      simp only [List.prefix_concat_iff, List.append_singleton_inj]
      -- Either way the last step is judged by the state before it, which the rest is about.
      constructor
      · intro hall before other hbefore htakes
        rcases hbefore with ⟨rfl, rfl⟩ | hbefore
        · have hnow := hall before (.inr (List.prefix_refl _))
          refine (hnow.step_iff (h.after _) hstep).mp ?_ htakes
          exact hlast ▸ hall _ (.inl rfl)
        · exact ih.mp (fun before hbefore => hall before (.inr hbefore)) before other hbefore htakes
      · intro htimely before hbefore
        have hearlier := ih.mpr fun before other hbefore => htimely before other (.inr hbefore)
        rcases hbefore with rfl | hbefore
        · have hnow := hearlier happenings (List.prefix_refl _)
          rw [hlast]
          exact (hnow.step_iff (h.after _) hstep).mpr (htimely _ _ (.inl ⟨rfl, rfl⟩))
        · exact hearlier before hbefore

/--
From a session with nothing running on, every fetch of the newest page is the one held,
exactly if no report on the newest page is taken while such a fetch runs.  Where it is the
one held, no other runs, and there and only there the end of the loop leaves none behind.
-/
theorem held_resync_of_run (s : Session) (happenings : List Happening) :
    let w := Loop.after { session := s }
    ((∀ before, before <+: happenings → (w before).Tracked) ↔
      ∀ before happening, before ++ [happening] <+: happenings →
        (w before).TakesNewest happening → (w before).resyncs = []) ∧
    ((w happenings).Tracked → (w happenings).resyncs.length ≤ 1) ∧
    ((w happenings).Tracked ↔ (w happenings).teardown.resyncs = []) := by
  intro w
  have hnone : Loop.Tracked { session := s } := by
    intro number hmem
    simp [resyncs] at hmem
  have hnumbered : (w happenings).Numbered := Numbered.start.after happenings
  refine ⟨hnone.after_iff .start happenings, hnumbered.length_le_of_tracked, ?_⟩
  rw [hnumbered.resyncs_teardown]
  exact tracked_iff _

/--
The first report comes in when the second fetch is under way, and the session lets go of
that one.  A third fetch then runs beside it, and the end of the loop leaves it behind.
-/
theorem resync_lost_to_late_report :
    let again := .keyPressed { code := .char 'r' }
    let late := [again, .fetched (.resync 0) (.ok ⟨[user "b"], none, none⟩), again, .reported]
    let w := Loop.after { session := userSession } late
    let v := w.next again
    Session.start (.users none) userSeed { pageSize := 1 } = .ok userSession ∧
      w.resyncs = [1] ∧ w.session.resyncTask = none ∧ ¬w.Tracked ∧
      v.resyncs = [1, 2] ∧ v.teardown.resyncs = [1] := by
  refine ⟨rfl, ?_⟩
  decide

end Loop

end FeedReader
