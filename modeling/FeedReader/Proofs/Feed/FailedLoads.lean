import FeedReader.Proofs.Feed.Attachments
import FeedReader.Proofs.Feed.LoadTurns
import FeedReader.Proofs.Feed.Trigger

/-!
# A load that fails

Arrivals, removals and shown queues may fall between a request and its answer, and none of them
touches what the feed would ask for next.  So a failure only ends the load: the report apart, the
feed is as it was, and the next request asks again for the page that could not be had.
-/

namespace FeedReader.Feed

variable {α κ ρ ε : Type} [Keyed α κ] [DecidableEq κ]

/-! ## What is asked for -/

structure SameDemand (f g : Feed α κ ρ ε) : Prop where
  pageSize : g.pageSize = f.pageSize
  cursor : g.listing.cursor = f.listing.cursor
  noMore : g.listing.noMore = f.listing.noMore
  loading : g.listing.loading = f.listing.loading
  trigger : g.trigger = f.trigger
  generation : g.generation = f.generation
  tornDown : g.tornDown = f.tornDown

omit [Keyed α κ] [DecidableEq κ] in
theorem SameDemand.refl (f : Feed α κ ρ ε) : SameDemand f f := by
  constructor <;> rfl

omit [Keyed α κ] [DecidableEq κ] in
theorem SameDemand.trans {f g h : Feed α κ ρ ε} (first : SameDemand f g)
    (second : SameDemand g h) : SameDemand f h where
  pageSize := second.pageSize.trans first.pageSize
  cursor := second.cursor.trans first.cursor
  noMore := second.noMore.trans first.noMore
  loading := second.loading.trans first.loading
  trigger := second.trigger.trans first.trigger
  generation := second.generation.trans first.generation
  tornDown := second.tornDown.trans first.tornDown

omit [Keyed α κ] [DecidableEq κ] in
theorem SameDemand.isAwaited_eq {f g : Feed α κ ρ ε} (h : SameDemand f g)
    (request : LoadRequest) : g.isAwaited request = f.isAwaited request := by
  rw [isAwaited, isAwaited, h.tornDown, h.loading, h.generation]

omit [Keyed α κ] [DecidableEq κ] in
theorem SameDemand.beginLoad_fst {f g : Feed α κ ρ ε} (h : SameDemand f g) :
    g.beginLoad.1 = f.beginLoad.1 := by
  have hready : g.ready = f.ready := by
    rw [ready, ready, h.tornDown, h.loading, h.noMore, h.trigger]
  have hnext : g.nextRequest = f.nextRequest := by
    rw [nextRequest, nextRequest, h.cursor, h.pageSize, h.generation]
  rw [beginLoad_eq, beginLoad_eq, hready, hnext]
  split
  · rfl
  · rfl

/-! ## Between a request and its answer -/

theorem Step.sameDemand {f g : Feed α κ ρ ε} {op : Op α κ ε} {answer : Answer α}
    (hstep : Step f op answer g) (h : f.Faithful) (hop : op ≠ .teardown)
    (hbusy : f.listing.loading = true → Event.settled? ⟨op, answer⟩ = none)
    (hidle : f.listing.loading = false → Event.issued? ⟨op, answer⟩ = none) :
    SameDemand f g := by
  have hunderWay : ∀ request, f.isAwaited request = true → f.listing.loading = true :=
    fun request hawaited => ((f.isAwaited_eq_true_iff request).mp hawaited).2.1
  cases hstep with
  | refused | discarded | late | nothingToShow | kept | stuck | alreadyDown => exact .refl f
  | merged | waited | dropped | moved | releasedAtOnce | attached =>
      exact ⟨rfl, rfl, rfl, rfl, rfl, rfl, rfl⟩
  | began hready =>
      have hissued := hidle (live_of_ready hready).2
      contradiction
  | failed hawaited =>
      have hsettled := hbusy (hunderWay _ hawaited)
      contradiction
  | loaded hawaited _ =>
      have hsettled := hbusy (hunderWay _ hawaited)
      contradiction
  | showed _ _ hfold =>
      have hrefilled := (h.renewed hfold).refilled
      exact ⟨hrefilled.pageSize, hrefilled.cursor, hrefilled.noMore, hrefilled.loading,
        hrefilled.trigger, hrefilled.generation, hrefilled.tornDown⟩
  | wentDown => contradiction

theorem Reachable.sameDemand_after {f : Feed α κ ρ ε} (h : Reachable f) {ops : List (Op α κ ε)}
    (hup : .teardown ∉ ops)
    (hbusy : f.listing.loading = true → ∀ event ∈ f.history ops, event.settled? = none)
    (hidle : f.listing.loading = false → ∀ event ∈ f.history ops, event.issued? = none) :
    SameDemand f (f.after ops) := by
  induction ops generalizing f with
  | nil => exact .refl f
  | cons op ops ih =>
      rw [history_cons, List.forall_mem_cons] at hbusy hidle
      rw [List.mem_cons, not_or] at hup
      have hone : SameDemand f (f.perform op).2 :=
        (h.step op).sameDemand h.faithful (Ne.symm hup.1) (fun hload => (hbusy hload).1)
          (fun hload => (hidle hload).1)
      refine hone.trans (ih (h.perform op) hup.2 ?_ ?_)
      · rw [hone.loading]
        exact fun hload => (hbusy hload).2
      · rw [hone.loading]
        exact fun hload => (hidle hload).2

theorem issued?_of_mem_history {f : Feed α κ ρ ε} {ops : List (Op α κ ε)}
    (hops : .beginLoad ∉ ops) : ∀ event ∈ f.history ops, event.issued? = none := by
  induction ops generalizing f with
  | nil => exact fun _ hevent => absurd hevent List.not_mem_nil
  | cons op ops ih =>
      rw [List.mem_cons, not_or] at hops
      rw [history_cons, List.forall_mem_cons]
      refine ⟨?_, ih hops.2⟩
      cases op with
      | beginLoad => exact absurd rfl hops.1
      | _ => rfl

/-! ## The failure -/

omit [Keyed α κ] [DecidableEq κ] in
theorem beginLoad_snd_of_ready {f : Feed α κ ρ ε} (h : f.ready = true) :
    f.beginLoad.2 = { f with
      generation := f.generation + 1
      listing := { f.listing with loading := true } } := by
  rw [beginLoad_eq, if_pos h]

omit [Keyed α κ] [DecidableEq κ] in
theorem idle_eq_self {f : Feed α κ ρ ε} (h : f.listing.loading = false) : f.idle = f := by
  rw [idle, ← h]

theorem finishLoad_of_not_awaited {f : Feed α κ ρ ε} {request : LoadRequest}
    (h : f.isAwaited request = false) (result : Except ε (Page α)) :
    f.finishLoad request result = (.discarded, f) := by
  rw [finishLoad, h]
  rfl

theorem finishLoad_error {f : Feed α κ ρ ε} {request : LoadRequest}
    (h : f.isAwaited request = true) (error : ε) :
    f.finishLoad request (.error error) =
      (.failed, { f.idle with log := f.log ++ [.failed error] }) := by
  rw [finishLoad, h]
  rfl

omit [Keyed α κ] [DecidableEq κ] in
theorem not_isAwaited_of_idle {f : Feed α κ ρ ε} (hidle : f.listing.loading = false)
    {request : LoadRequest} (hlast : request.generation = f.generation) :
    f.isAwaited request = false ∧ f.beginLoad.2.isAwaited request = false := by
  have hnow : f.isAwaited request = false := by
    rw [isAwaited, hidle, Bool.and_false, Bool.false_and]
  refine ⟨hnow, ?_⟩
  rw [beginLoad_eq]
  split
  · have hlater : f.generation ≠ f.generation + 1 := by grind
    simp [isAwaited, hlast, hlater]
  · exact hnow

section UnderWay

variable {f : Feed α κ ρ ε} (h : Reachable f) (hready : f.ready = true)
  {between : List (Op α κ ε)} (hsettled : settled (f.beginLoad.2.history between) = [])

include h hready hsettled

theorem sameDemand_under_way (hup : .teardown ∉ between) :
    SameDemand f.beginLoad.2 (f.beginLoad.2.after between) := by
  have hreach : Reachable f.beginLoad.2 := h.perform .beginLoad
  apply hreach.sameDemand_after hup
  · exact fun _ => List.filterMap_eq_nil_iff.mp hsettled
  · intro hidle
    rw [beginLoad_snd_of_ready hready] at hidle
    contradiction

theorem isAwaited_under_way_iff :
    (f.beginLoad.2.after between).isAwaited f.nextRequest = true ↔ .teardown ∉ between := by
  have hreach : Reachable f.beginLoad.2 := h.perform .beginLoad
  constructor
  · intro hawaited hdown
    have hgone := (hreach.tornDown_after_iff between).mpr (.inr hdown)
    have hlive := ((isAwaited_eq_true_iff _ _).mp hawaited).1
    exact Bool.false_ne_true (hlive.symm.trans hgone)
  · intro hup
    rw [(sameDemand_under_way h hready hsettled hup).isAwaited_eq, beginLoad_snd_of_ready hready,
      isAwaited_eq_true_iff]
    exact ⟨(live_of_ready hready).1, rfl, rfl⟩

theorem sameDemand_failed (hup : .teardown ∉ between) (error : ε) :
    let g := f.beginLoad.2.after between
    SameDemand { f with generation := f.generation + 1 }
      { g.idle with log := g.log ++ [.failed error] } := by
  have hsame := sameDemand_under_way h hready hsettled hup
  rw [beginLoad_snd_of_ready hready] at hsame ⊢
  exact ⟨hsame.pageSize, hsame.cursor, hsame.noMore, (live_of_ready hready).2.symm, hsame.trigger,
    hsame.generation, hsame.tornDown⟩

end UnderWay

/--
A failure of the load under way reports the error and ends the load, whatever happened since it
was begun, and changes nothing else.  The next request asks for the same page, and the one that
failed is not taken any more.
-/
theorem failed_load_leaves_no_trace {f : Feed α κ ρ ε} (h : Reachable f) {request : LoadRequest}
    (hrequest : f.beginLoad.1 = some request) {between : List (Op α κ ε)}
    (hsettled : settled (f.beginLoad.2.history between) = []) (error : ε) :
    let g := f.beginLoad.2.after between
    let failed := { g.idle with log := g.log ++ [.failed error] }
    (g.isAwaited request = true ↔ .teardown ∉ between) ∧
    (g.isAwaited request = true →
      g.finishLoad request (.error error) = (.failed, failed) ∧
      (between = [] →
        failed = { f with generation := f.generation + 1, log := f.log ++ [.failed error] }) ∧
      ∀ later : List (Op α κ ε), .beginLoad ∉ later → .teardown ∉ later →
        let resting := failed.after later
        resting.beginLoad.1 = some { request with generation := request.generation + 1 } ∧
        ∀ result, resting.finishLoad request result = (.discarded, resting) ∧
          resting.beginLoad.2.finishLoad request result = (.discarded, resting.beginLoad.2)) := by
  obtain ⟨hready, rfl⟩ := (beginLoad_eq_some_iff f request).mp hrequest
  have hidle := (live_of_ready hready).2
  intro g failed
  have hiff : g.isAwaited f.nextRequest = true ↔ .teardown ∉ between :=
    isAwaited_under_way_iff h hready hsettled
  refine ⟨hiff, fun hawaited => ?_⟩
  have hfinish : g.finishLoad f.nextRequest (.error error) = (.failed, failed) :=
    finishLoad_error hawaited error
  refine ⟨hfinish, ?_, ?_⟩
  · rintro rfl
    have hsame : f.idle = f := idle_eq_self hidle
    dsimp only [failed, g, after_nil]
    rw [beginLoad_snd_of_ready hready]
    exact congrArg (fun unloading : Feed α κ ρ ε => { unloading with
      generation := f.generation + 1, log := f.log ++ [Effect.failed error] }) hsame
  · intro later hlater hup resting
    have hreach : Reachable failed := by
      have hperform := ((h.perform .beginLoad).after between).perform
        (.finishLoad f.nextRequest (.error error))
      change Reachable (g.finishLoad f.nextRequest (.error error)).2 at hperform
      rwa [hfinish] at hperform
    have hfailed : SameDemand { f with generation := f.generation + 1 } failed :=
      sameDemand_failed h hready hsettled (hiff.mp hawaited) error
    have hlast : SameDemand { f with generation := f.generation + 1 } resting := by
      refine hfailed.trans (hreach.sameDemand_after hup ?_ ?_)
      · exact fun hbusy => absurd hbusy Bool.false_ne_true
      · exact fun _ => issued?_of_mem_history hlater
    have hnumber : f.nextRequest.generation = resting.generation := hlast.generation.symm
    obtain ⟨hnow, hnext⟩ := not_isAwaited_of_idle (hlast.loading.trans hidle) hnumber
    refine ⟨?_, fun result => ⟨?_, ?_⟩⟩
    · rw [hlast.beginLoad_fst]
      exact (beginLoad_eq_some_iff _ _).mpr ⟨hready, rfl⟩
    · exact finishLoad_of_not_awaited hnow result
    · exact finishLoad_of_not_awaited hnext result

theorem failed_load_leaves_no_trace_among_arrivals :
    let f := snapshotFeed (.page ⟨[⟨1, 0⟩, ⟨2, 0⟩], none, some "a"⟩) .forward
    let request : LoadRequest := ⟨some "a", 2, 1⟩
    let between := [.enqueue ⟨3, 0⟩, .flush, .enqueue ⟨4, 0⟩, .remove 1, .beginLoad,
      .finishLoad ⟨none, 2, 0⟩ (.ok ⟨[⟨9, 0⟩], none, none⟩)]
    let g := f.beginLoad.2.after between
    let failed := (g.finishLoad request (.error ())).2
    Reachable f ∧ f.beginLoad.1 = some request ∧ settled (f.beginLoad.2.history between) = [] ∧
      (g.finishLoad request (.error ())).1 = .failed ∧ failed.items = [⟨3, 0⟩, ⟨2, 0⟩] ∧
      failed.queued = [⟨4, 0⟩] ∧ failed.log = g.log ++ [.failed ()] ∧
      (failed.after [.flush, .remove 2]).beginLoad.1 = some ⟨some "a", 2, 2⟩ := by
  intro f request between
  dsimp only
  have h : Reachable f := .start (start_snapshotFeed _ _)
  have hrequest : f.beginLoad.1 = some request := by decide
  have hsettled : settled (f.beginLoad.2.history between) = [] := by decide
  obtain ⟨-, hall⟩ := failed_load_leaves_no_trace h hrequest hsettled ()
  obtain ⟨hfinish, -, hlater⟩ := hall (by decide)
  rw [hfinish]
  refine ⟨h, hrequest, hsettled, rfl, by decide, by decide, rfl, ?_⟩
  exact (hlater [.flush, .remove 2] (by simp) (by simp)).1

end FeedReader.Feed
