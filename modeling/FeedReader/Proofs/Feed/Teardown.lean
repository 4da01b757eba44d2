import FeedReader.Proofs.Feed.Coherence

/-!
# The end of a feed

Only some operations ask whether the feed is torn down; the others find nothing left to
work on.  The main statement is that there is no way back: whatever is asked of the feed
is declined, and all that still happens is that a resource handed over late is released.
-/

namespace FeedReader.Feed

variable {α κ ρ ε : Type}

/-! ## What is left -/

structure Gone (f : Feed α κ ρ ε) : Prop where
  tornDown : f.tornDown = true
  rows : f.listing.rows = []
  keys : f.listing.keys = []
  queue : f.listing.queue.items = []
  cursor : f.listing.cursor = none
  loading : f.listing.loading = false
  trigger : f.trigger = .removed
  placeholder : f.placeholder = none
  attachments : f.attachments = []

structure ShowsNothing (f : Feed α κ ρ ε) : Prop where
  nodes : f.nodes = []
  items : f.items = []
  queued : f.queued = []
  affordance : f.affordance = none
  placeholder : f.placeholder = none
  cursor : f.listing.cursor = none
  loading : f.listing.loading = false
  trigger : f.trigger = .removed
  focused : f.focused = none
  focusedItem : f.focusedItem = none
  sentinelVisible : f.sentinelVisible = false

theorem Gone.showsNothing {f : Feed α κ ρ ε} (h : f.Gone) : f.ShowsNothing := by
  have hfocused : f.focused = none := by simp [focused, h.tornDown]
  constructor
  case affordance => simp [affordance, Queue.isEmpty, h.queue]
  case focusedItem => simp [focusedItem, hfocused]
  case sentinelVisible => simp [sentinelVisible, h.trigger]
  all_goals simp [nodes, items, queued, hfocused, h.rows, h.queue, h.placeholder, h.cursor,
    h.loading, h.trigger]

/-! ## What still happens -/

def releasing (f : Feed α κ ρ ε) (resources : List Nat) : Feed α κ ρ ε :=
  { f with log := f.log ++ resources.map .released }

@[simp] theorem releasing_nil (f : Feed α κ ρ ε) : f.releasing [] = f := by
  simp [releasing]

theorem releasing_releasing (f : Feed α κ ρ ε) (first second : List Nat) :
    (f.releasing first).releasing second = f.releasing (first ++ second) := by
  simp [releasing]

theorem renderedItems_releasing (f : Feed α κ ρ ε) (resources : List Nat) :
    (f.releasing resources).renderedItems = f.renderedItems := by
  simp [releasing, renderedItems, List.filterMap_map]

theorem reportedErrors_releasing (f : Feed α κ ρ ε) (resources : List Nat) :
    (f.releasing resources).reportedErrors = f.reportedErrors := by
  simp [releasing, reportedErrors, List.filterMap_map]

theorem releasedResources_releasing (f : Feed α κ ρ ε) (resources : List Nat) :
    (f.releasing resources).releasedResources = f.releasedResources ++ resources := by
  simp [releasing, releasedResources, List.filterMap_map]

theorem Gone.releasing {f : Feed α κ ρ ε} (h : f.Gone) (resources : List Nat) :
    (f.releasing resources).Gone :=
  ⟨h.tornDown, h.rows, h.keys, h.queue, h.cursor, h.loading, h.trigger, h.placeholder,
    h.attachments⟩

/-! ## Tearing down -/

theorem gone_teardown_of_live {f : Feed α κ ρ ε} (hlive : f.tornDown = false) :
    f.teardown.Gone := by
  rw [teardown, hlive, if_neg Bool.false_ne_true]
  exact ⟨rfl, rfl, rfl, rfl, rfl, rfl, rfl, rfl, rfl⟩

theorem noMore_teardown (f : Feed α κ ρ ε) : f.teardown.listing.noMore = f.listing.noMore := by
  rw [teardown]
  split
  · rfl
  · rfl

theorem renderedItems_teardown (f : Feed α κ ρ ε) :
    f.teardown.renderedItems = f.renderedItems := by
  rw [teardown]
  split
  · rfl
  · exact renderedItems_releasing f f.attachments

theorem reportedErrors_teardown (f : Feed α κ ρ ε) :
    f.teardown.reportedErrors = f.reportedErrors := by
  rw [teardown]
  split
  · rfl
  · exact reportedErrors_releasing f f.attachments

/-! ## What is asked of a feed that is gone -/

def Op.declined : Op α κ ε → Answer α
  | .beginLoad => .asked none
  | .finishLoad _ _ => .finished .discarded
  | .enqueue _ => .arrived .discarded
  | .flush => .shown 0
  | .remove _ => .dropped none
  | .navigate _ => .moved none
  | .attach _ | .teardown => .done

def Op.attached? : Op α κ ε → Option Nat
  | .attach resource => some resource
  | _ => none

def attached (ops : List (Op α κ ε)) : List Nat := ops.filterMap Op.attached?

theorem attached_cons (op : Op α κ ε) (ops : List (Op α κ ε)) :
    attached (op :: ops) = op.attached?.toList ++ attached ops := by
  rw [attached, attached, List.filterMap_cons]
  cases op.attached? with
  | none => rfl
  | some _ => rfl

variable [Keyed α κ] [DecidableEq κ]

theorem Gone.perform {f : Feed α κ ρ ε} (h : f.Gone) (op : Op α κ ε) :
    f.perform op = (op.declined, f.releasing op.attached?.toList) := by
  cases op with
  | attach resource =>
      simp [Feed.perform, attach, h.tornDown, Op.declined, Op.attached?, Feed.releasing]
  | remove k =>
      -- No flag is asked here: it is the emptied key set that declines.
      have hremove : f.listing.remove k = (none, f.listing) := by
        simp [Listing.remove, Listing.position, h.keys]
      simp [Feed.perform, remove, hremove, Op.declined, Op.attached?]
  | beginLoad => simp [Feed.perform, beginLoad, h.tornDown, Op.declined, Op.attached?]
  | finishLoad request result =>
      simp [Feed.perform, finishLoad, isAwaited, h.tornDown, Op.declined, Op.attached?]
  | enqueue item => simp [Feed.perform, enqueue, h.tornDown, Op.declined, Op.attached?]
  | flush => simp [Feed.perform, flush, h.tornDown, Op.declined, Op.attached?]
  | navigate nav => simp [Feed.perform, navigate, h.tornDown, Op.declined, Op.attached?]
  | teardown => simp [Feed.perform, teardown, h.tornDown, Op.declined, Op.attached?]

theorem Gone.after {f : Feed α κ ρ ε} (h : f.Gone) (ops : List (Op α κ ε)) :
    f.after ops = f.releasing (attached ops) := by
  induction ops generalizing f with
  | nil => exact (releasing_nil f).symm
  | cons op ops ih =>
      rw [after_cons, h.perform, ih (h.releasing _), releasing_releasing, attached_cons]

theorem Gone.history {f : Feed α κ ρ ε} (h : f.Gone) (ops : List (Op α κ ε)) :
    f.history ops = ops.map fun op => ⟨op, op.declined⟩ := by
  induction ops generalizing f with
  | nil => rfl
  | cons op ops ih =>
      rw [history_cons, h.perform, ih (h.releasing _), List.map_cons]

/-! ## Whole runs -/

theorem Step.tornDown {f g : Feed α κ ρ ε} {op : Op α κ ε} {answer : Answer α}
    (hstep : Step f op answer g) (h : f.Faithful) (hop : op ≠ .teardown) :
    g.tornDown = f.tornDown := by
  cases hstep with
  | loaded _ hfold => exact (h.aged hfold).refilled.tornDown
  | showed _ _ hfold => exact (h.renewed hfold).refilled.tornDown
  | wentDown => contradiction
  | _ => rfl

theorem Reachable.gone {f : Feed α κ ρ ε} (h : Reachable f) (hdown : f.tornDown = true) :
    f.Gone := by
  induction h with
  | start hstart =>
      rw [(started hstart).live] at hdown
      contradiction
  | @perform f op hf ih =>
      cases hbefore : f.tornDown with
      | true =>
          rw [(ih hbefore).perform]
          exact (ih hbefore).releasing _
      | false =>
          rcases eq_or_ne op .teardown with rfl | hop
          · exact gone_teardown_of_live hbefore
          · rw [(hf.step op).tornDown hf.faithful hop, hbefore] at hdown
            contradiction

theorem Reachable.gone_teardown {f : Feed α κ ρ ε} (h : Reachable f) : f.teardown.Gone := by
  cases hdown : f.tornDown with
  | true =>
      rw [teardown, if_pos hdown]
      exact h.gone hdown
  | false => exact gone_teardown_of_live hdown

/--
After its end a feed shows nothing, whatever is asked of it: every operation is declined,
nothing is rendered and no error is reported.
-/
theorem torn_down_for_good {f : Feed α κ ρ ε} (h : Reachable f) (ops : List (Op α κ ε)) :
    let g := f.teardown.after ops
    g.ShowsNothing ∧ g.tornDown = true ∧ g.listing.noMore = f.listing.noMore ∧
      f.teardown.history ops = ops.map (fun op => ⟨op, op.declined⟩) ∧
      g.renderedItems = f.renderedItems ∧ g.reportedErrors = f.reportedErrors := by
  intro g
  have hgone := h.gone_teardown
  have hg : g = f.teardown.releasing (attached ops) := hgone.after ops
  have hlater : g.Gone := hg ▸ hgone.releasing _
  refine ⟨hlater.showsNothing, hlater.tornDown, ?_, hgone.history ops, ?_, ?_⟩
  · rw [hg]
    exact noMore_teardown f
  · rw [hg, renderedItems_releasing, renderedItems_teardown]
  · rw [hg, reportedErrors_releasing, reportedErrors_teardown]

theorem torn_down_with_load_under_way :
    let f := (snapshotFeed (.page ⟨[⟨1, 0⟩, ⟨2, 0⟩], none, some "a"⟩) .forward).after
      [.enqueue ⟨3, 0⟩, .attach 0, .beginLoad]
    let ops := [.finishLoad ⟨some "a", 2, 1⟩ (.ok ⟨[⟨4, 0⟩], none, none⟩), .remove 1, .flush,
      .attach 5, .teardown]
    Reachable f ∧ f.listing.loading = true ∧ f.queued ≠ [] ∧
      (f.teardown.after ops).ShowsNothing ∧
      (f.teardown.history ops).map Event.answer =
        [.finished .discarded, .dropped none, .shown 0, .done, .done] := by
  intro f ops
  have h : Reachable f := (Reachable.start (start_snapshotFeed _ _)).after _
  obtain ⟨hnothing, -, -, hhistory, -⟩ := torn_down_for_good h ops
  refine ⟨h, by decide, by decide, hnothing, ?_⟩
  rw [hhistory]
  rfl

end FeedReader.Feed
