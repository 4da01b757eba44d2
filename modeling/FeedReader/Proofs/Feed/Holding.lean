import FeedReader.Proofs.Feed.Coherence

/-!
# No arrival is lost or doubled

A key is held if it has a row or waits in the queue.  What a run holds can be
read off its history: the keys that were supplied and have not been removed
since they were last supplied.
-/

namespace FeedReader.Feed

variable {α κ ρ ε : Type} [Keyed α κ] [DecidableEq κ]

/-! ## What a history says of a key -/

/-- An arrival supplies its key, and a page that was taken the keys of its items. -/
def Event.Supplies (event : Event α κ ε) (k : κ) : Prop :=
  match event.op, event.answer with
  | .enqueue item, _ => key item = k
  | .finishLoad _ (.ok page), .finished (.loaded _ _ _) => k ∈ page.items.map key
  | _, _ => False

def Event.Removes (event : Event α κ ε) (k : κ) : Prop :=
  match event.op, event.answer with
  | .remove j, .dropped (some _) => j = k
  | _, _ => False

/-- After its last supply, by the seed or by an event, nothing has removed `k`. -/
def Standing (seed : Seed α) (history : List (Event α κ ε)) (k : κ) : Prop :=
  (k ∈ seed.items.map key ∧ ∀ event ∈ history, ¬event.Supplies k ∧ ¬event.Removes k) ∨
  ∃ before supply after, history = before ++ supply :: after ∧ supply.Supplies k ∧
    ∀ event ∈ after, ¬event.Supplies k ∧ ¬event.Removes k

omit [DecidableEq κ] in
@[simp] theorem standing_nil (seed : Seed α) (k : κ) :
    Standing seed ([] : List (Event α κ ε)) k ↔ k ∈ seed.items.map key := by
  simp [Standing]

omit [DecidableEq κ] in
theorem standing_append_singleton (seed : Seed α) (history : List (Event α κ ε))
    (event : Event α κ ε) (k : κ) :
    Standing seed (history ++ [event]) k ↔
      event.Supplies k ∨ (Standing seed history k ∧ ¬event.Removes k) := by
  constructor
  · rintro (⟨hseed, hquiet⟩ | ⟨before, supply, after, hsplit, hsupply, hquiet⟩)
    · obtain ⟨hrest, hlast⟩ := List.forall_mem_append.mp hquiet
      exact .inr ⟨.inl ⟨hseed, hrest⟩, (hlast event List.mem_cons_self).2⟩
    · rcases append_singleton_eq_split_iff.mp hsplit with ⟨-, -, rfl⟩ | ⟨middle, rfl, rfl⟩
      · exact .inl hsupply
      · obtain ⟨hrest, hlast⟩ := List.forall_mem_append.mp hquiet
        exact .inr ⟨.inr ⟨before, supply, middle, rfl, hsupply, hrest⟩,
          (hlast event List.mem_cons_self).2⟩
  · intro h
    by_cases hsupply : event.Supplies k
    · exact .inr ⟨history, event, [], rfl, hsupply, fun _ he => absurd he List.not_mem_nil⟩
    · obtain ⟨hstanding, hremoves⟩ := h.resolve_left hsupply
      have hlast : ∀ e ∈ [event], ¬e.Supplies k ∧ ¬e.Removes k :=
        List.forall_mem_singleton.mpr ⟨hsupply, hremoves⟩
      rcases hstanding with ⟨hseed, hquiet⟩ | ⟨before, supply, after, rfl, hfirst, hquiet⟩
      · exact .inl ⟨hseed, List.forall_mem_append.mpr ⟨hquiet, hlast⟩⟩
      · refine .inr ⟨before, supply, after ++ [event], by simp, hfirst, ?_⟩
        exact List.forall_mem_append.mpr ⟨hquiet, hlast⟩

/-! ## What a step does to the held keys -/

def held (f : Feed α κ ρ ε) : List κ := f.rowKeys ++ f.queueKeys

omit [DecidableEq κ] in
theorem mem_held (f : Feed α κ ρ ε) (k : κ) : k ∈ f.held ↔ k ∈ f.rowKeys ∨ k ∈ f.queueKeys :=
  List.mem_append

omit [DecidableEq κ] in
theorem Faithful.nodup_held {f : Feed α κ ρ ε} (h : f.Faithful) : f.held.Nodup :=
  List.nodup_append'.mpr ⟨h.sound.rows_distinct, h.sound.queue_distinct, fun _ hrow hwaiting =>
    h.sound.apart _ hwaiting hrow⟩

theorem mem_held_of_start {seed : Seed α} {options : FeedOptions α ρ} {f : Feed α κ ρ ε}
    (h : Feed.start seed options = .ok f) (k : κ) : k ∈ f.held ↔ k ∈ seed.items.map key := by
  rw [mem_held, (started h).rowKeys, (started h).queueKeys, mem_unseen]
  simp

theorem Step.mem_held_iff {f g : Feed α κ ρ ε} {op : Op α κ ε} {answer : Answer α}
    (hstep : Step f op answer g) (h : f.Faithful) (hlive : g.tornDown = false) (k : κ) :
    k ∈ g.held ↔
      Event.Supplies ⟨op, answer⟩ k ∨ (k ∈ f.held ∧ ¬Event.Removes ⟨op, answer⟩ k) := by
  have hdown := hstep.live h hlive
  cases hstep with
  | @discarded _ result _ =>
      cases result with
      | error _ => simp [Event.Supplies, Event.Removes]
      | ok _ => simp [Event.Supplies, Event.Removes]
  | refused | began | failed | nothingToShow | kept | moved | attached =>
      change k ∈ f.held ↔ False ∨ (k ∈ f.held ∧ ¬False)
      rw [false_or, not_false_eq_true, and_true]
  | late hgone | stuck hgone | releasedAtOnce hgone | alreadyDown hgone =>
      rw [hdown] at hgone
      contradiction
  | @loaded _ page tally grown hawaited hfold =>
      have haged := h.aged hfold
      change k ∈ grown.held ↔ k ∈ page.items.map key ∨ (k ∈ f.held ∧ ¬False)
      rw [mem_held, mem_held, haged.rowKeys, haged.queueKeys, Layout.mem_withOlder, mem_unseen,
        List.mem_filter, decide_eq_true_eq]
      tauto
  | @merged item index _ hkey =>
      have hitem : key item ∈ f.held := (mem_held f _).mpr (.inl (List.mem_of_getElem? hkey))
      change k ∈ (f.listing.update index ⟨item, f.render item⟩).rowKeys ++ f.queueKeys ↔
        key item = k ∨ (k ∈ f.held ∧ ¬False)
      rw [rowKeys_refreshed hkey, not_false_eq_true, and_true]
      exact (or_iff_right_of_imp fun hk => hk ▸ hitem).symm
  | @waited item _ _ _ _ =>
      change k ∈ f.rowKeys ++ (f.listing.queue.push item).2.keys ↔
        key item = k ∨ (k ∈ f.held ∧ ¬False)
      rw [List.mem_append, Queue.mem_keys_push, mem_held, eq_comm]
      tauto
  | @showed added grown _ hsome hfold =>
      have hrenewed := h.renewed hfold
      change k ∈ grown.held ↔ False ∨ (k ∈ f.held ∧ ¬False)
      rw [mem_held, mem_held, hrenewed.rowKeys, hrenewed.queueKeys, Layout.mem_withNewer]
      simp
  | @dropped j index row hkey hrow =>
      have hgone : j ∉ f.queueKeys := fun hwaiting =>
        h.sound.apart j hwaiting (List.mem_of_getElem? hkey)
      change k ∈ (f.listing.eraseRow index j).rowKeys ++ f.queueKeys ↔
        False ∨ (k ∈ f.held ∧ ¬j = k)
      rw [h.sound.rowKeys_eraseRow hkey, List.mem_append, mem_held,
        h.sound.rows_distinct.mem_erase_iff]
      by_cases hk : j = k
      · subst hk
        simp [hgone]
      · simp [hk, Ne.symm hk, rowKeys]
  | wentDown _ => contradiction

/-! ## Whole runs -/

theorem mem_held_iff_standing {seed : Seed α} {options : FeedOptions α ρ} {f : Feed α κ ρ ε}
    (hstart : Feed.start seed options = .ok f) (ops : List (Op α κ ε))
    (hlive : (f.after ops).tornDown = false) (k : κ) :
    k ∈ (f.after ops).held ↔ Standing seed (f.history ops) k := by
  induction ops using List.reverseRecOn with
  | nil => simpa using mem_held_of_start hstart k
  | append_singleton ops op ih =>
      have hreachable := (Reachable.start hstart).after ops
      have hstep := hreachable.step op
      rw [after_append_singleton] at hlive ⊢
      rw [history_append_singleton, standing_append_singleton,
        ← ih (hstep.live hreachable.faithful hlive)]
      exact hstep.mem_held_iff hreachable.faithful hlive k

/-- A standing key is held once, in a row or in the queue; any other key not at all. -/
theorem held_once_iff_standing {seed : Seed α} {options : FeedOptions α ρ} {f : Feed α κ ρ ε}
    (hstart : Feed.start seed options = .ok f) (ops : List (Op α κ ε))
    (hlive : (f.after ops).tornDown = false) (k : κ) :
    let rows := (f.after ops).items.map key
    let waiting := (f.after ops).queued.map key
    (rows.count k + waiting.count k = 1 ↔ Standing seed (f.history ops) k) ∧
      (rows.count k + waiting.count k = 0 ↔ ¬Standing seed (f.history ops) k) := by
  have hnodup := ((Reachable.start hstart).after ops).faithful.nodup_held
  have hcount : ((f.after ops).items.map key).count k + ((f.after ops).queued.map key).count k =
      (f.after ops).held.count k := by
    rw [held, List.count_append, map_key_items, map_key_queued]
  dsimp only
  rw [hcount, ← mem_held_iff_standing hstart ops hlive k, hnodup.count]
  split
  · next hk => simp [hk]
  · next hk => simp [hk]

theorem standing_after_removals :
    let seed := .bare [⟨1, 0⟩, ⟨2, 0⟩]
    let f := snapshotFeed seed .forward
    let ops := [.enqueue ⟨3, 0⟩, .remove 3, .remove 1, .remove 2, .enqueue ⟨1, 1⟩]
    Feed.start seed (snapshotOptions .forward) = .ok f ∧ (f.after ops).tornDown = false ∧
      Standing seed (f.history ops) 3 ∧ Standing seed (f.history ops) 1 ∧
      ¬Standing seed (f.history ops) 2 := by
  refine ⟨rfl, by decide, ?_, ?_, ?_⟩
  · exact (held_once_iff_standing (start_snapshotFeed _ _) _ (by decide) 3).1.mp (by decide)
  · exact (held_once_iff_standing (start_snapshotFeed _ _) _ (by decide) 1).1.mp (by decide)
  · exact (held_once_iff_standing (start_snapshotFeed _ _) _ (by decide) 2).2.mp (by decide)

end FeedReader.Feed
