import FeedReader.Proofs.Listing.Snapshots
import FeedReader.Proofs.Feed.LoadTurns
import FeedReader.Proofs.Feed.Paging

/-!
# Live updates against pages under way

A page may have been fetched before an arrival that is already here.  Only what
waits in the queue is kept over the page's copy of its key, and only over the
first copy: a row is refreshed by every copy.  The main statement gives the
exact condition under which an arrival outlives the page.
-/

namespace FeedReader.Feed

variable {α κ ρ ε : Type} [Keyed α κ] [DecidableEq κ]

/-! ## Rows and queue -/

def shown? (f : Feed α κ ρ ε) (k : κ) : Option α := snapshot? f.items k

def waiting? (f : Feed α κ ρ ε) (k : κ) : Option α := snapshot? f.queued k

def held? (f : Feed α κ ρ ε) (k : κ) : Option α := (f.shown? k).or (f.waiting? k)

theorem waiting?_eq_none_iff (f : Feed α κ ρ ε) (k : κ) :
    f.waiting? k = none ↔ k ∉ f.queueKeys :=
  snapshot?_eq_none_iff f.queued k

theorem mem_queueKeys_of_waiting? {f : Feed α κ ρ ε} {k : κ} {x : α}
    (hwaits : f.waiting? k = some x) : k ∈ f.queueKeys := by
  by_contra hk
  rw [(f.waiting?_eq_none_iff k).mpr hk] at hwaits
  contradiction

theorem Faithful.shown?_of_waiting? {f : Feed α κ ρ ε} (h : f.Faithful) {k : κ} {x : α}
    (hwaits : f.waiting? k = some x) : f.shown? k = none := by
  rw [shown?, snapshot?_eq_none_iff, map_key_items]
  exact h.sound.apart k (mem_queueKeys_of_waiting? hwaits)

theorem Faithful.held?_of_waiting? {f : Feed α κ ρ ε} (h : f.Faithful) {k : κ} {x : α}
    (hwaits : f.waiting? k = some x) : f.held? k = some x := by
  rw [held?, h.shown?_of_waiting? hwaits, hwaits, Option.none_or]

theorem Faithful.held?_of_mem_items {f : Feed α κ ρ ε} (h : f.Faithful) {x : α}
    (hx : x ∈ f.items) : f.held? (key x) = some x := by
  have hshown : f.shown? (key x) = some x :=
    (snapshot?_eq_some_iff h.sound.items_distinct _ x).mpr ⟨hx, rfl⟩
  rw [held?, hshown, Option.some_or]

theorem Faithful.waiting?_of_mem_queued {f : Feed α κ ρ ε} (h : f.Faithful) {x : α}
    (hx : x ∈ f.queued) : f.waiting? (key x) = some x :=
  (snapshot?_eq_some_iff h.sound.queue_distinct _ x).mpr ⟨hx, rfl⟩

theorem Faithful.held?_of_mem_queued {f : Feed α κ ρ ε} (h : f.Faithful) {x : α}
    (hx : x ∈ f.queued) : f.held? (key x) = some x :=
  h.held?_of_waiting? (h.waiting?_of_mem_queued hx)

theorem held?_of_not_waiting {f : Feed α κ ρ ε} {k : κ} (h : f.waiting? k = none) :
    f.held? k = f.shown? k := by
  rw [held?, h, Option.or_none]

/-! ## Placing -/

theorem shown?_place {f : Feed α κ ρ ε} (h : f.listing.Sound) (index : Nat) (item : α) (k : κ) :
    (f.place index item).2.shown? k = if key item = k then some item else f.shown? k := by
  rcases place_cases h index item with ⟨present, hpresent, hplace⟩ | ⟨hnew, hplace⟩
  · rw [hplace]
    exact h.shown?_update hpresent k
  · rw [hplace]
    exact h.shown?_insert index _ hnew k

def copies (k : κ) (items : List α) : List α := items.filter fun item => key item = k

/-- The last copy decides, and without any the snapshot stays. -/
def latest (k : κ) (held : Option α) (items : List α) : Option α :=
  (copies k items).getLast?.or held

theorem copies_cons (k : κ) (item : α) (items : List α) :
    copies k (item :: items) = if key item = k then item :: copies k items else copies k items := by
  simp only [copies, List.filter_cons, decide_eq_true_eq]

theorem copies_eq_nil_iff (k : κ) (items : List α) : copies k items = [] ↔ k ∉ items.map key := by
  simp [copies]

theorem latest_cons (k : κ) (held : Option α) (item : α) (items : List α) :
    latest k held (item :: items) = latest k (if key item = k then some item else held) items := by
  rw [latest, latest, copies_cons]
  split
  · rw [List.getLast?_cons]
    cases (copies k items).getLast? <;> rfl
  · rfl

theorem latest_append (k : κ) (held : Option α) (first second : List α) :
    latest k held (first ++ second) = latest k (latest k held first) second := by
  rw [latest, latest, latest, copies, copies, copies, List.filter_append, List.getLast?_append,
    Option.or_assoc]

theorem latest_eq_snapshot?_or (k : κ) (held : Option α) (items : List α) :
    latest k held items = (snapshot? items.reverse k).or held := by
  rw [latest, snapshot?, ← List.head?_filter, List.filter_reverse, List.head?_reverse, copies]

/-! ## The queue is shown -/

theorem shown?_foldl_settle {f : Feed α κ ρ ε} (h : f.Faithful) (hqueue : f.queueKeys = [])
    (added : Nat) (items : List α) (k : κ) :
    (items.foldl settle (added, f)).2.shown? k = latest k (f.shown? k) items := by
  induction items generalizing f added with
  | nil => rfl
  | cons item items ih =>
      have hone := settled_one h hqueue added item
      have hnone : (settle (added, f) item).2.queueKeys = [] := by
        rw [queueKeys, hone.queue]
        exact hqueue
      have hshown : (settle (added, f) item).2.shown? k =
          if key item = k then some item else f.shown? k := by
        rw [settle_eq]
        exact shown?_place h.sound _ item k
      rw [List.foldl_cons, latest_cons, ← hshown]
      exact ih hone.faithful hnone _

theorem Faithful.held?_showed {f grown : Feed α κ ρ ε} (h : f.Faithful) {added : Nat}
    (hfold : f.listing.queue.items.reverse.foldl settle (0, f.emptied) = (added, grown)) (k : κ) :
    grown.held? k = f.held? k := by
  have hshown := shown?_foldl_settle h.emptied rfl 0 f.listing.queue.items.reverse k
  rw [hfold] at hshown
  have hnone : grown.waiting? k = none := by
    rw [waiting?_eq_none_iff, (h.renewed hfold).queueKeys]
    exact List.not_mem_nil
  rw [latest_eq_snapshot?_or, List.reverse_reverse] at hshown
  rw [held?_of_not_waiting hnone, hshown]
  change (f.waiting? k).or (f.shown? k) = f.held? k
  cases hwaits : f.waiting? k with
  | none => exact (held?_of_not_waiting hwaits).symm
  | some x => exact (h.held?_of_waiting? hwaits).symm

/-! ## A page comes in -/

theorem shown?_absorb {f : Feed α κ ρ ε} (h : f.Faithful) (tally : Tally) (item : α) (k : κ) :
    (absorb (tally, f) item).2.shown? k =
      if key item = k then some (f.newest item) else f.shown? k := by
  rw [absorb_eq]
  refine (shown?_place (h.dequeued (key item)).sound _ _ k).trans ?_
  rw [key_newest]
  rfl

theorem waiting?_absorb {f : Feed α κ ρ ε} (h : f.Faithful) (tally : Tally) (item : α) (k : κ) :
    (absorb (tally, f) item).2.waiting? k = if key item = k then none else f.waiting? k := by
  rw [absorb_eq]
  dsimp only
  rw [waiting?, queued, queue_place]
  exact Queue.snapshot?_remove h.sound.queue_distinct (key item) k

theorem held?_foldl_absorb_of_not_waiting {f : Feed α κ ρ ε} (h : f.Faithful) {k : κ}
    (hwaits : f.waiting? k = none) (tally : Tally) (items : List α) :
    (items.foldl absorb (tally, f)).2.held? k = latest k (f.held? k) items := by
  induction items generalizing f tally with
  | nil => rfl
  | cons item items ih =>
      have hnone : (absorb (tally, f) item).2.waiting? k = none := by
        rw [waiting?_absorb h, hwaits, ite_self]
      have hheld : (absorb (tally, f) item).2.held? k =
          if key item = k then some item else f.held? k := by
        rw [held?_of_not_waiting hnone, held?_of_not_waiting hwaits, shown?_absorb h]
        split
        · next hk =>
            subst hk
            rw [newest, Queue.remove_fst]
            exact congrArg (fun waiting => some (Option.getD waiting item)) hwaits
        · rfl
      rw [List.foldl_cons, latest_cons, ← hheld]
      exact ih (h.after_absorb tally item) hnone _

theorem held?_foldl_absorb_of_waiting {f : Feed α κ ρ ε} (h : f.Faithful) {k : κ} {x : α}
    (hwaits : f.waiting? k = some x) (tally : Tally) (items : List α) :
    (items.foldl absorb (tally, f)).2.held? k =
      ((copies k items).drop 1).getLast?.or (some x) := by
  induction items generalizing f tally with
  | nil => exact h.held?_of_waiting? hwaits
  | cons item items ih =>
      rw [List.foldl_cons, copies_cons]
      split
      · next hk =>
          have hnone : (absorb (tally, f) item).2.waiting? k = none := by
            rw [waiting?_absorb h, if_pos hk]
          have hheld : (absorb (tally, f) item).2.held? k = some x := by
            rw [held?_of_not_waiting hnone, shown?_absorb h, if_pos hk, newest, Queue.remove_fst,
              hk]
            exact congrArg (fun waiting => some (Option.getD waiting item)) hwaits
          rw [held?_foldl_absorb_of_not_waiting (h.after_absorb tally item) hnone, hheld]
          rfl
      · next hk =>
          have hstill : (absorb (tally, f) item).2.waiting? k = some x := by
            rw [waiting?_absorb h, if_neg hk, hwaits]
          exact ih (h.after_absorb tally item) hstill _

/-! ## One step -/

def Op.Touches (k : κ) : Op α κ ε → Prop
  | .enqueue item => key item = k
  | .remove j => j = k
  | _ => False

theorem Step.held?_enqueue {f g : Feed α κ ρ ε} {item : α} {answer : Answer α}
    (hstep : Step f (.enqueue item) answer g) (h : f.Faithful) (hlive : f.tornDown = false)
    (k : κ) : g.held? k = if key item = k then some item else f.held? k := by
  cases hstep with
  | late hdown => exact absurd (hlive.symm.trans hdown) Bool.false_ne_true
  | @merged _ index _ hkey =>
      have hshown : (f.listing.update index ⟨item, f.render item⟩).shown? k =
          if key item = k then some item else f.shown? k := h.sound.shown?_update hkey k
      change ((f.listing.update index ⟨item, f.render item⟩).shown? k).or (f.waiting? k) = _
      rw [hshown]
      split
      · rfl
      · rfl
  | waited _ hnew _ =>
      have hshown : key item = k → f.shown? k = none := by
        rintro rfl
        rw [shown?, snapshot?_eq_none_iff, map_key_items]
        exact hnew
      change (f.shown? k).or (snapshot? (f.listing.queue.push item).2.items k) = _
      rw [Queue.snapshot?_push]
      split
      · next hk => rw [hshown hk, Option.none_or]
      · rfl

theorem Step.held?_eq {f g : Feed α κ ρ ε} {op : Op α κ ε} {answer : Answer α}
    (hstep : Step f op answer g) (h : f.Faithful) (hlive : g.tornDown = false) {k : κ}
    (hop : ¬op.Touches k) (hpage : Event.page? ⟨op, answer⟩ = none) : g.held? k = f.held? k := by
  cases hstep with
  | refused | discarded | late | nothingToShow | kept | stuck | alreadyDown => rfl
  | began | failed | moved | releasedAtOnce | attached => rfl
  | loaded | wentDown => contradiction
  | showed _ _ hfold => exact h.held?_showed hfold k
  | merged hdown hkey =>
      exact ((Step.merged hdown hkey).held?_enqueue h hdown k).trans (if_neg hop)
  | waited hdown hnew hanswer =>
      exact ((Step.waited hdown hnew hanswer).held?_enqueue h hdown k).trans (if_neg hop)
  | @dropped j index row hkey hrow =>
      have hshown : (f.listing.eraseRow index j).shown? k = f.shown? k :=
        h.sound.shown?_eraseRow hkey hop
      exact congrArg (Option.or · (f.waiting? k)) hshown

theorem Step.held?_of_page {f g : Feed α κ ρ ε} {request : LoadRequest} {page : Page α}
    {outcome : LoadOutcome} (hstep : Step f (.finishLoad request (.ok page)) (.finished outcome) g)
    (h : f.Faithful) (houtcome : outcome ≠ .discarded) (k : κ) :
    g.held? k =
      ((copies k page.items).drop (if k ∈ f.queueKeys then 1 else 0)).getLast?.or (f.held? k) := by
  cases hstep with
  | discarded => contradiction
  | @loaded _ _ tally grown _ hfold =>
      change grown.held? k = _
      have hgrown : grown = (page.items.foldl absorb ({}, f.idle)).2 := by rw [hfold]
      rw [hgrown]
      cases hwaits : f.waiting? k with
      | none =>
          rw [if_neg ((f.waiting?_eq_none_iff k).mp hwaits)]
          exact held?_foldl_absorb_of_not_waiting h.idle hwaits {} page.items
      | some x =>
          rw [if_pos (mem_queueKeys_of_waiting? hwaits), h.held?_of_waiting? hwaits]
          exact held?_foldl_absorb_of_waiting h.idle hwaits {} page.items

/-! ## A load stays in the air -/

theorem Step.under_way {f g : Feed α κ ρ ε} {op : Op α κ ε} {answer : Answer α}
    (hstep : Step f op answer g) (h : f.Faithful) (hbusy : g.listing.loading = true)
    (hissued : Event.issued? ⟨op, answer⟩ = none) :
    f.listing.loading = true ∧ Event.page? ⟨op, answer⟩ = none := by
  cases hstep with
  | began | failed | wentDown => contradiction
  | loaded _ hfold =>
      have hidle : f.idle.listing.loading = true :=
        (h.aged hfold).refilled.loading.symm.trans hbusy
      contradiction
  | @discarded _ result _ =>
      refine ⟨hbusy, ?_⟩
      cases result with
      | error _ => rfl
      | ok _ => rfl
  | showed _ _ hfold => exact ⟨(h.renewed hfold).refilled.loading.symm.trans hbusy, rfl⟩
  | _ => exact ⟨hbusy, rfl⟩

theorem Reachable.no_page_under_way {f : Feed α κ ρ ε} (h : Reachable f) {ops : List (Op α κ ε)}
    (hbusy : (f.after ops).listing.loading = true) (hissued : issued (f.history ops) = []) :
    f.listing.loading = true ∧ pages (f.history ops) = [] := by
  induction ops generalizing f with
  | nil => exact ⟨hbusy, rfl⟩
  | cons op ops ih =>
      rw [history_cons, issued, List.filterMap_eq_nil_iff] at hissued
      obtain ⟨hfirst, hrest⟩ := List.forall_mem_cons.mp hissued
      obtain ⟨hbusy, hpages⟩ := ih (h.perform op) hbusy (List.filterMap_eq_nil_iff.mpr hrest)
      obtain ⟨hbusy, hpage⟩ := (h.step op).under_way h.faithful hbusy hfirst
      refine ⟨hbusy, ?_⟩
      rw [history_cons, pages, List.filterMap_cons_none hpage]
      exact hpages

theorem Step.generation {f g : Feed α κ ρ ε} {op : Op α κ ε} {answer : Answer α}
    (hstep : Step f op answer g) (h : f.Faithful) :
    g.generation = f.generation + UInt64.ofNat (Event.issued? ⟨op, answer⟩).toList.length := by
  cases hstep with
  | began _ => rfl
  | loaded _ hfold => exact (h.aged hfold).refilled.generation.trans (UInt64.add_zero _).symm
  | showed _ _ hfold => exact (h.renewed hfold).refilled.generation.trans (UInt64.add_zero _).symm
  | _ => exact (UInt64.add_zero _).symm

theorem Reachable.generation_after {f : Feed α κ ρ ε} (h : Reachable f) (ops : List (Op α κ ε)) :
    (f.after ops).generation =
      f.generation + UInt64.ofNat (issued (f.history ops)).length := by
  induction ops generalizing f with
  | nil => exact (UInt64.add_zero _).symm
  | cons op ops ih =>
      have hsplit : issued (f.history (op :: ops)) =
          (Event.issued? ⟨op, (f.perform op).1⟩).toList ++
            issued ((f.perform op).2.history ops) := by
        rw [history_cons]
        cases hissued : Event.issued? ⟨op, (f.perform op).1⟩ <;> simp [issued, hissued]
      rw [after_cons, ih (h.perform op), (h.step op).generation h.faithful, hsplit,
        List.length_append, UInt64.ofNat_add, UInt64.add_assoc]

theorem Reachable.pages_eq_nil_of_awaited {f : Feed α κ ρ ε} (h : Reachable f)
    {request : LoadRequest} (hrequest : f.beginLoad.1 = some request) {ops : List (Op α κ ε)}
    (hfew : (issued (f.history (.beginLoad :: ops))).length < 2 ^ 64)
    (hawaited : (f.after (.beginLoad :: ops)).isAwaited request = true) :
    pages (f.beginLoad.2.history ops) = [] := by
  have hbegun : Reachable f.beginLoad.2 := h.perform .beginLoad
  have hgeneration : f.beginLoad.2.generation = request.generation := by
    obtain ⟨hready, rfl⟩ := (beginLoad_eq_some_iff f request).mp hrequest
    rw [beginLoad_eq, if_pos hready]
    rfl
  have hguard : (f.beginLoad.2.after ops).listing.loading = true ∧
      (f.beginLoad.2.after ops).generation = f.beginLoad.2.generation := by
    obtain ⟨-, hbusy, hsame⟩ := (isAwaited_eq_true_iff _ request).mp hawaited
    exact ⟨hbusy, hsame.symm.trans hgeneration.symm⟩
  have hcount : (issued (f.beginLoad.2.history ops)).length < 2 ^ 64 := by
    rw [history_cons, Feed.perform, hrequest] at hfew
    exact Nat.lt_of_succ_lt hfew
  have hnone : issued (f.beginLoad.2.history ops) = [] := by
    have hsame := (hbegun.generation_after ops).symm.trans hguard.2
    have hnat := congrArg UInt64.toNat hsame
    rw [UInt64.toNat_add, UInt64.toNat_ofNat'] at hnat
    have hlt := f.beginLoad.2.generation.toNat_lt
    apply List.length_eq_zero_iff.mp
    omega
  exact (hbegun.no_page_under_way hguard.1 hnone).2

/-! ## Whole runs -/

theorem Reachable.held?_after {f : Feed α κ ρ ε} (h : Reachable f) {ops : List (Op α κ ε)}
    (hlive : (f.after ops).tornDown = false) {k : κ} (hquiet : ∀ op ∈ ops, ¬op.Touches k)
    (hpages : pages (f.history ops) = []) : (f.after ops).held? k = f.held? k := by
  induction ops generalizing f with
  | nil => rfl
  | cons op ops ih =>
      obtain ⟨hop, hrest⟩ := List.forall_mem_cons.mp hquiet
      rw [history_cons, pages, List.filterMap_eq_nil_iff] at hpages
      obtain ⟨hpage, hpages⟩ := List.forall_mem_cons.mp hpages
      have hnext := (h.perform op).live_of_after ops hlive
      exact (ih (h.perform op) hlive hrest (List.filterMap_eq_nil_iff.mpr hpages)).trans
        ((h.step op).held?_eq h.faithful hnext hop hpage)

theorem Reachable.held?_after_enqueue {f : Feed α κ ρ ε} (h : Reachable f)
    {between later : List (Op α κ ε)} {x : α}
    (hlive : (f.after (between ++ .enqueue x :: later)).tornDown = false)
    (hquiet : ∀ op ∈ later, ¬op.Touches (key x))
    (hpages : pages (f.history (between ++ .enqueue x :: later)) = []) :
    (f.after (between ++ .enqueue x :: later)).held? (key x) = some x := by
  have hbefore : Reachable (f.after between) := h.after between
  rw [after_append, after_cons] at hlive ⊢
  rw [history_append, history_cons, pages, List.filterMap_append, List.append_eq_nil_iff,
    List.filterMap_cons_none rfl] at hpages
  have hnext := (hbefore.perform (.enqueue x)).live_of_after later hlive
  rw [(hbefore.perform (.enqueue x)).held?_after hlive hquiet hpages.2,
    (hbefore.step (.enqueue x)).held?_enqueue hbefore.faithful
      ((hbefore.step (.enqueue x)).live hbefore.faithful hnext), if_pos rfl]

omit [Keyed α κ] [DecidableEq κ] in
theorem getLast?_or_eq_some_iff (xs : List α) (x : α) :
    xs.getLast?.or (some x) = some x ↔ xs = [] ∨ xs.getLast? = some x := by
  cases xs with
  | nil => simp
  | cons first rest =>
      rw [List.getLast?_cons]
      simp

omit [Keyed α κ] [DecidableEq κ] in
theorem getLast?_drop_one_or_eq_some_iff (xs : List α) (x : α) :
    (xs.drop 1).getLast?.or (some x) = some x ↔
      xs = [] ∨ xs.length = 1 ∨ xs.getLast? = some x := by
  cases xs with
  | nil => simp
  | cons first rest =>
      cases rest with
      | nil => simp
      | cons second rest =>
          rw [List.drop_one, List.tail_cons, List.getLast?_cons_cons, List.getLast?_cons]
          simp

/--
An arrival outlives a page requested before it exactly if the page has no copy
of its key, has one while the arrival still waits, or ends its copies with the
very same snapshot.
-/
theorem live_update_kept_iff {f : Feed α κ ρ ε} (h : Reachable f) {request : LoadRequest}
    (hrequest : f.beginLoad.1 = some request) (between later : List (Op α κ ε)) (x : α)
    (page : Page α) (hquiet : ∀ op ∈ later, ¬op.Touches (key x))
    (hfew : (issued (f.history (.beginLoad :: (between ++ .enqueue x :: later)))).length < 2 ^ 64)
    (happlied : ((f.after (.beginLoad :: (between ++ .enqueue x :: later))).finishLoad request
      (.ok page)).1 ≠ .discarded) :
    let g := f.after (.beginLoad :: (between ++ .enqueue x :: later))
    (g.finishLoad request (.ok page)).2.held? (key x) = some x ↔
      copies (key x) page.items = [] ∨
      (x ∈ g.queued ∧ (copies (key x) page.items).length = 1) ∨
      (copies (key x) page.items).getLast? = some x := by
  intro g
  have hg : Reachable g := h.after _
  have hawaited : g.isAwaited request = true := (finishLoad_discarded g request _).1.mp happlied
  have hlive := ((g.isAwaited_eq_true_iff request).mp hawaited).1
  have hheld : g.held? (key x) = some x :=
    (h.perform .beginLoad).held?_after_enqueue hlive hquiet
      (h.pages_eq_nil_of_awaited hrequest hfew hawaited)
  have hpage := (hg.step (.finishLoad request (.ok page))).held?_of_page hg.faithful happlied (key x)
  rw [perform, hheld] at hpage
  rw [hpage]
  cases hwaits : g.waiting? (key x) with
  | none =>
      have hqueue := (g.waiting?_eq_none_iff (key x)).mp hwaits
      have hx : x ∉ g.queued := fun hx => hqueue (List.mem_map_of_mem hx)
      rw [if_neg hqueue, List.drop_zero, getLast?_or_eq_some_iff]
      simp [hx]
  | some y =>
      obtain rfl : y = x := Option.some.inj ((hg.faithful.held?_of_waiting? hwaits).symm.trans hheld)
      have hx : y ∈ g.queued := List.mem_of_find?_eq_some hwaits
      rw [if_pos (mem_queueKeys_of_waiting? hwaits), getLast?_drop_one_or_eq_some_iff]
      simp [hx]

theorem live_update_kept_by_queue :
    let f := snapshotFeed (.page ⟨[⟨1, 0⟩, ⟨2, 0⟩], none, some "a"⟩) .forward
    let between := [.enqueue ⟨3, 1⟩, .remove 1]
    let later := [.navigate .last, .enqueue ⟨4, 0⟩, .beginLoad]
    let page := ⟨[⟨3, 0⟩, ⟨4, 5⟩], none, some "b"⟩
    let g := f.after (.beginLoad :: (between ++ .enqueue ⟨3, 2⟩ :: later))
    Reachable f ∧ f.beginLoad.1 = some ⟨some "a", 2, 1⟩ ∧
      (g.finishLoad ⟨some "a", 2, 1⟩ (.ok page)).1 ≠ .discarded ∧
      (g.finishLoad ⟨some "a", 2, 1⟩ (.ok page)).2.held? 3 = some ⟨3, 2⟩ := by
  intro f between later page g
  have h : Reachable f := Reachable.start (start_snapshotFeed _ _)
  have hrequest : f.beginLoad.1 = some ⟨some "a", 2, 1⟩ := rfl
  have hquiet : ∀ op ∈ later, ¬op.Touches (key (⟨3, 2⟩ : Snapshot)) := by
    simp [later, Op.Touches, key]
  have happlied : (g.finishLoad ⟨some "a", 2, 1⟩ (.ok page)).1 ≠ .discarded := by decide
  have hkept := live_update_kept_iff h hrequest between later ⟨3, 2⟩ page hquiet (by decide) happlied
  exact ⟨h, hrequest, happlied, hkept.mpr (.inr (.inl (by decide)))⟩

/-- The page wins over an arrival that is shown meanwhile, has a row, or meets a second copy. -/
theorem live_update_lost_to_page :
    let f := snapshotFeed (.page ⟨[⟨1, 0⟩, ⟨2, 0⟩], none, some "a"⟩) .forward
    let answer (g : SnapshotFeed) (items : List Snapshot) :=
      (g.finishLoad ⟨some "a", 2, 1⟩ (.ok ⟨items, none, some "b"⟩)).2
    Reachable f ∧ f.beginLoad.1 = some ⟨some "a", 2, 1⟩ ∧
      (answer (f.after [.beginLoad, .enqueue ⟨3, 1⟩, .flush]) [⟨3, 0⟩, ⟨4, 0⟩]).held? 3 =
        some ⟨3, 0⟩ ∧
      (answer (f.after [.beginLoad, .enqueue ⟨2, 1⟩]) [⟨2, 0⟩, ⟨3, 0⟩]).held? 2 = some ⟨2, 0⟩ ∧
      (answer (f.after [.beginLoad, .enqueue ⟨3, 1⟩]) [⟨3, 0⟩, ⟨3, 0⟩]).held? 3 = some ⟨3, 0⟩ := by
  intro f answer
  exact ⟨Reachable.start (start_snapshotFeed _ _), rfl, by decide, by decide, by decide⟩

end FeedReader.Feed
