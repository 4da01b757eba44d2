import FeedReader.Proofs.Feed.Placing

/-!
# How a feed grows

Three loops place items: a seed and a page add unseen keys at the older end, a
shown queue adds them at the newer end.  Each loop is described by what it does
to the keys of the rows and of the queue, and by what it leaves alone.
-/

namespace FeedReader

def Layout.withOlder {β : Type} (layout : Layout) (rows older : List β) : List β :=
  match layout with
  | .forward => rows ++ older
  | .reverse => older ++ rows

/-- The rows with newer ones, of which the most recent comes first in `newer`. -/
def Layout.withNewer {β : Type} (layout : Layout) (rows newer : List β) : List β :=
  match layout with
  | .forward => newer ++ rows
  | .reverse => rows ++ newer.reverse

theorem Layout.mem_withOlder {β : Type} (layout : Layout) (rows older : List β) (x : β) :
    x ∈ layout.withOlder rows older ↔ x ∈ rows ∨ x ∈ older := by
  cases layout with
  | forward => simp [withOlder]
  | reverse => simp [withOlder, or_comm]

theorem Layout.mem_withNewer {β : Type} (layout : Layout) (rows newer : List β) (x : β) :
    x ∈ layout.withNewer rows newer ↔ x ∈ rows ∨ x ∈ newer := by
  cases layout with
  | forward => simp [withNewer, or_comm]
  | reverse => simp [withNewer]

theorem Layout.length_withOlder {β : Type} (layout : Layout) (rows older : List β) :
    (layout.withOlder rows older).length = rows.length + older.length := by
  cases layout with
  | forward => simp [withOlder]
  | reverse => simp [withOlder, Nat.add_comm]

theorem Layout.length_withNewer {β : Type} (layout : Layout) (rows newer : List β) :
    (layout.withNewer rows newer).length = rows.length + newer.length := by
  cases layout with
  | forward => simp [withNewer, Nat.add_comm]
  | reverse => simp [withNewer]

theorem Layout.filter_withNewer {β : Type} (layout : Layout) (p : β → Bool) (rows newer : List β) :
    (layout.withNewer rows newer).filter p = layout.withNewer (rows.filter p) (newer.filter p) := by
  cases layout with
  | forward => simp [withNewer]
  | reverse => simp [withNewer]

theorem Layout.withNewer_nil_inj {β : Type} (layout : Layout) (first second : List β) :
    layout.withNewer [] first = layout.withNewer [] second ↔ first = second := by
  cases layout with
  | forward => simp [withNewer]
  | reverse => simp [withNewer]

namespace Feed

variable {α κ ρ ε : Type} [Keyed α κ] [DecidableEq κ]

/-! ## The seed -/

theorem foldl_place_end {f : Feed α κ ρ ε} (h : f.Faithful) (hqueue : f.queueKeys = [])
    (items : List α) :
    let filled := items.foldl (fun f item => (f.place f.listing.size item).2) f
    filled.Faithful ∧ Refilled f filled ∧ filled.queueKeys = [] ∧
      filled.rowKeys = f.rowKeys ++ unseen f.rowKeys items := by
  induction items generalizing f with
  | nil => exact ⟨h, .refl f, hqueue, by simp [unseen]⟩
  | cons item items ih =>
      have hplaced := h.place f.listing.size item (by simp [hqueue])
      have hempty : (f.place f.listing.size item).2.queueKeys = [] := by
        rw [queueKeys, queue_place]
        exact hqueue
      have hgrown : (f.place f.listing.size item).2.rowKeys =
          f.rowKeys ++ if key item ∈ f.rowKeys then [] else [key item] := by
        have hend := f.length_rowKeys
        have hsplit : f.rowKeys = f.rowKeys ++ [] := (List.append_nil _).symm
        simpa [hend] using rowKeys_place_between h.sound hsplit item
      obtain ⟨hfaithful, hrefilled, hnone, hrows⟩ := ih hplaced hempty
      refine ⟨hfaithful, (refilled_place f _ item).trans hrefilled, hnone, ?_⟩
      rw [List.foldl_cons, hrows, hgrown, ← unseen_singleton, List.append_assoc,
        ← unseen_append f.rowKeys [item] items, List.singleton_append]

/-! ## A page -/

def Tally.count (tally : Tally) : Placed → Tally
  | .inserted => { tally with added := tally.added + 1 }
  | .merged => { tally with merged := tally.merged + 1 }

def newest (f : Feed α κ ρ ε) (item : α) : α :=
  (f.listing.queue.remove (key item)).1.getD item

def dequeued (f : Feed α κ ρ ε) (k : κ) : Feed α κ ρ ε :=
  { f with listing := { f.listing with queue := (f.listing.queue.remove k).2 } }

theorem key_newest (f : Feed α κ ρ ε) (item : α) : key (f.newest item) = key item := by
  rw [newest]
  cases hwaiting : (f.listing.queue.remove (key item)).1 with
  | none => rfl
  | some waiting => exact Queue.key_of_remove hwaiting

theorem refilled_dequeued (f : Feed α κ ρ ε) (k : κ) : Refilled f (f.dequeued k) :=
  ⟨⟨rfl, rfl, rfl, rfl, rfl, rfl⟩, rfl, rfl, rfl, rfl, rfl, rfl, rfl, rfl, rfl⟩

theorem queueKeys_dequeued (f : Feed α κ ρ ε) (k : κ) :
    (f.dequeued k).queueKeys = f.queueKeys.erase k :=
  Queue.keys_remove f.listing.queue k

theorem Faithful.dequeued {f : Feed α κ ρ ε} (h : f.Faithful) (k : κ) :
    (f.dequeued k).Faithful := by
  refine ⟨h.sound.setQueue ?_ ?_, h.rendered⟩
  · rw [Queue.keys_remove]
    exact h.sound.queue_distinct.erase k
  · intro j hj
    rw [Queue.keys_remove] at hj
    exact h.sound.apart j (List.mem_of_mem_erase hj)

theorem absorb_eq (tally : Tally) (f : Feed α κ ρ ε) (item : α) :
    absorb (tally, f) item =
      let placed := (f.dequeued (key item)).place (f.olderEnd tally.added) (f.newest item)
      (tally.count placed.1, placed.2) := by
  rw [absorb]
  dsimp only
  split
  · next g hplace =>
      have hplaced : (f.dequeued (key item)).place (f.olderEnd tally.added) (f.newest item) =
          (.inserted, g) := hplace
      rw [hplaced]
      rfl
  · next g hplace =>
      have hplaced : (f.dequeued (key item)).place (f.olderEnd tally.added) (f.newest item) =
          (.merged, g) := hplace
      rw [hplaced]
      rfl

theorem Faithful.after_absorb {f : Feed α κ ρ ε} (h : f.Faithful) (tally : Tally) (item : α) :
    (absorb (tally, f) item).2.Faithful := by
  rw [absorb_eq]
  apply (h.dequeued (key item)).place
  rw [key_newest, queueKeys_dequeued]
  exact h.sound.queue_distinct.not_mem_erase

def AtOlderEnd (f : Feed α κ ρ ε) (added : Nat) (above below : List κ) : Prop :=
  f.rowKeys = above ++ below ∧
    match f.layout with
    | .forward => below = []
    | .reverse => above.length = added

omit [DecidableEq κ] in
theorem AtOlderEnd.olderEnd_eq {f : Feed α κ ρ ε} {added : Nat} {above below : List κ}
    (h : f.AtOlderEnd added above below) : f.olderEnd added = above.length := by
  obtain ⟨hrows, hend⟩ := h
  rw [olderEnd]
  cases hlayout : f.layout with
  | forward =>
      rw [hlayout] at hend
      subst hend
      rw [List.append_nil] at hrows
      exact f.length_rowKeys.symm.trans (congrArg List.length hrows)
  | reverse =>
      rw [hlayout] at hend
      exact hend.symm

structure Absorbed (f : Feed α κ ρ ε) (tally : Tally) (above below : List κ)
    (items : List α) (result : Tally × Feed α κ ρ ε) : Prop where
  faithful : result.2.Faithful
  refilled : Refilled f result.2
  rowKeys : result.2.rowKeys = above ++ unseen (above ++ below) items ++ below
  queueKeys : result.2.queueKeys = f.queueKeys.filter (· ∉ items.map key)
  added : result.1.added = tally.added + (unseen (above ++ below) items).length
  total : result.1.added + result.1.merged = tally.added + tally.merged + items.length

theorem absorbed_one {f : Feed α κ ρ ε} (h : f.Faithful) {tally : Tally}
    {above below : List κ} (hend : f.AtOlderEnd tally.added above below) (item : α) :
    Absorbed f tally above below [item] (absorb (tally, f) item) := by
  have hkey := key_newest f item
  have hdequeued := h.dequeued (key item)
  have hrows : (f.dequeued (key item)).rowKeys = above ++ below := hend.1
  have hqueue : (f.dequeued (key item)).queueKeys =
      f.queueKeys.filter (· ∉ [item].map key) := by
    simp only [List.map_cons, List.map_nil, List.mem_singleton]
    exact Queue.keys_remove_of_nodup h.sound.queue_distinct (key item)
  have hplaced := rowKeys_place_between hdequeued.sound hrows (f.newest item)
  have houtcome := place_fst hdequeued.sound above.length (f.newest item)
  rw [hkey] at hplaced
  rw [hkey, hrows] at houtcome
  have hfaithful := h.after_absorb tally item
  rw [absorb_eq, hend.olderEnd_eq] at hfaithful ⊢
  refine ⟨hfaithful, (refilled_dequeued f _).trans (refilled_place _ _ _), ?_, ?_, ?_, ?_⟩
  · rw [hplaced, unseen, unseen, unseen]
  · rw [queueKeys, queue_place]
    exact hqueue
  · dsimp only
    rw [houtcome, unseen]
    split
    · simp [unseen, Tally.count]
    · simp [unseen, Tally.count]
  · dsimp only
    rw [houtcome]
    split
    · simp [Tally.count, Nat.add_assoc]
    · simp [Tally.count, Nat.add_right_comm]

theorem Absorbed.atOlderEnd {f : Feed α κ ρ ε} {tally : Tally} {above below : List κ}
    {items : List α} {result : Tally × Feed α κ ρ ε}
    (h : Absorbed f tally above below items result)
    (hend : f.AtOlderEnd tally.added above below) :
    result.2.AtOlderEnd result.1.added (above ++ unseen (above ++ below) items) below := by
  refine ⟨h.rowKeys, ?_⟩
  have hside := hend.2
  rw [h.refilled.layout]
  cases hlayout : f.layout with
  | forward =>
      rw [hlayout] at hside
      exact hside
  | reverse =>
      rw [hlayout] at hside
      simp only [List.length_append, h.added]
      exact congrArg (· + _) hside

theorem absorbed_foldl {f : Feed α κ ρ ε} (h : f.Faithful) {tally : Tally}
    {above below : List κ} (hend : f.AtOlderEnd tally.added above below) (items : List α) :
    Absorbed f tally above below items (items.foldl absorb (tally, f)) := by
  induction items generalizing f tally above with
  | nil =>
      refine ⟨h, .refl f, ?_, ?_, rfl, rfl⟩
      · simpa [unseen] using hend.1
      · simp
  | cons item items ih =>
      have hone := absorbed_one h hend item
      have hrest := ih hone.faithful (hone.atOlderEnd hend)
      have hsplit : unseen (above ++ below) (item :: items) =
          unseen (above ++ below) [item] ++
            unseen (above ++ unseen (above ++ below) [item] ++ below) items := by
        refine (unseen_append (above ++ below) [item] items).trans
          (congrArg (_ ++ ·) (unseen_congr ?_))
        intro k _
        simp only [List.mem_append]
        tauto
      rw [List.foldl_cons]
      refine ⟨hrest.faithful, hone.refilled.trans hrest.refilled, ?_, ?_, ?_, ?_⟩
      · rw [hrest.rowKeys, hsplit]
        simp only [List.append_assoc]
      · rw [hrest.queueKeys, hone.queueKeys, List.filter_filter]
        apply List.filter_congr
        intro k _
        simp only [List.map_cons, List.map_nil, List.mem_cons, List.not_mem_nil]
        by_cases hk : k = key item
        · simp [hk]
        · simp [hk]
      · rw [hrest.added, hone.added, hsplit, List.length_append, Nat.add_assoc]
      · rw [hrest.total, hone.total, List.length_singleton, List.length_cons]
        omega

def idle (f : Feed α κ ρ ε) : Feed α κ ρ ε :=
  { f with listing := { f.listing with loading := false } }

omit [DecidableEq κ] in
theorem Faithful.idle {f : Feed α κ ρ ε} (h : f.Faithful) : f.idle.Faithful :=
  h.congr rfl rfl rfl rfl

/-- What a whole page turns an awaiting feed into, but for its cursor and its focus. -/
structure Aged (f : Feed α κ ρ ε) (items : List α) (tally : Tally) (grown : Feed α κ ρ ε) :
    Prop where
  faithful : grown.Faithful
  refilled : Refilled f.idle grown
  rowKeys : grown.rowKeys = f.layout.withOlder f.rowKeys (unseen f.rowKeys items)
  queueKeys : grown.queueKeys = f.queueKeys.filter (· ∉ items.map key)
  added : tally.added = (unseen f.rowKeys items).length
  total : tally.added + tally.merged = items.length

private theorem aged_of_sides {f grown : Feed α κ ρ ε} (h : f.Faithful) {items : List α}
    {tally : Tally} (hfold : items.foldl absorb ({}, f.idle) = (tally, grown))
    {above below : List κ} (hend : f.idle.AtOlderEnd ({} : Tally).added above below)
    (hsides : ∀ older, above ++ older ++ below = f.layout.withOlder f.rowKeys older) :
    Aged f items tally grown := by
  have hall := absorbed_foldl h.idle hend items
  have hrows : above ++ below = f.rowKeys := hend.1.symm
  rw [hfold] at hall
  refine ⟨hall.faithful, hall.refilled, ?_, hall.queueKeys, ?_, ?_⟩
  · rw [hall.rowKeys, hsides, hrows]
  · simpa [hrows] using hall.added
  · simpa using hall.total

theorem Faithful.aged {f grown : Feed α κ ρ ε} (h : f.Faithful) {items : List α}
    {tally : Tally} (hfold : items.foldl absorb ({}, f.idle) = (tally, grown)) :
    Aged f items tally grown := by
  cases hlayout : f.layout with
  | forward =>
      have hend : f.idle.AtOlderEnd ({} : Tally).added f.rowKeys [] := by
        refine ⟨(List.append_nil _).symm, ?_⟩
        rw [show f.idle.layout = .forward from hlayout]
      refine aged_of_sides h hfold hend ?_
      simp [hlayout, Layout.withOlder]
  | reverse =>
      have hend : f.idle.AtOlderEnd ({} : Tally).added [] f.rowKeys := by
        refine ⟨rfl, ?_⟩
        rw [show f.idle.layout = .reverse from hlayout]
        rfl
      refine aged_of_sides h hfold hend ?_
      simp [hlayout, Layout.withOlder]

/-! ## The queue -/

structure Settled (f : Feed α κ ρ ε) (added : Nat) (items : List α)
    (result : Nat × Feed α κ ρ ε) : Prop where
  faithful : result.2.Faithful
  refilled : Refilled f result.2
  queue : result.2.listing.queue = f.listing.queue
  rowKeys : result.2.rowKeys = f.layout.withNewer f.rowKeys (unseen f.rowKeys items).reverse
  added : result.1 = added + (unseen f.rowKeys items).length

theorem settle_eq (added : Nat) (f : Feed α κ ρ ε) (item : α) :
    settle (added, f) item =
      let newerEnd := match f.layout with
        | .forward => 0
        | .reverse => f.listing.size
      let placed := f.place newerEnd item
      (added + if placed.1 = .inserted then 1 else 0, placed.2) := by
  rw [settle]
  dsimp only
  rcases f.place _ item with ⟨_ | _, g⟩
  · rfl
  · rfl

theorem settled_one {f : Feed α κ ρ ε} (h : f.Faithful) (hqueue : f.queueKeys = [])
    (added : Nat) (item : α) : Settled f added [item] (settle (added, f) item) := by
  have hgone : key item ∉ f.queueKeys := by simp [hqueue]
  have hnew := unseen_singleton f.rowKeys item
  rw [settle_eq]
  refine ⟨h.place _ _ hgone, refilled_place _ _ _, queue_place _ _ _, ?_, ?_⟩
  · rw [hnew]
    cases hlayout : f.layout with
    | forward =>
        have hsplit : f.rowKeys = [] ++ f.rowKeys := rfl
        have hbetween := rowKeys_place_between h.sound hsplit item
        simpa [Layout.withNewer, apply_ite List.reverse] using hbetween
    | reverse =>
        have hend := f.length_rowKeys
        have hsplit : f.rowKeys = f.rowKeys ++ [] := (List.append_nil _).symm
        simpa [hend, Layout.withNewer, apply_ite List.reverse] using
          rowKeys_place_between h.sound hsplit item
  · dsimp only
    rw [place_fst h.sound, hnew]
    split
    · simp
    · simp

theorem settled_foldl {f : Feed α κ ρ ε} (h : f.Faithful) (hqueue : f.queueKeys = [])
    (added : Nat) (items : List α) : Settled f added items (items.foldl settle (added, f)) := by
  induction items generalizing f added with
  | nil =>
      refine ⟨h, .refl f, rfl, ?_, rfl⟩
      cases f.layout with
      | forward => rfl
      | reverse => exact (List.append_nil _).symm
  | cons item items ih =>
      have hone := settled_one h hqueue added item
      have hnone : (settle (added, f) item).2.queueKeys = [] := by
        rw [queueKeys, hone.queue]
        exact hqueue
      have hrest := ih hone.faithful hnone (settle (added, f) item).1
      have hsplit : unseen f.rowKeys (item :: items) = unseen f.rowKeys [item] ++
          unseen (settle (added, f) item).2.rowKeys items := by
        refine (unseen_append f.rowKeys [item] items).trans
          (congrArg (_ ++ ·) (unseen_congr ?_))
        intro k _
        rw [hone.rowKeys, Layout.mem_withNewer, List.mem_append, List.mem_reverse]
      rw [List.foldl_cons]
      refine ⟨hrest.faithful, hone.refilled.trans hrest.refilled,
        hrest.queue.trans hone.queue, ?_, ?_⟩
      · rw [hrest.rowKeys, hsplit, hone.refilled.layout, hone.rowKeys]
        cases f.layout with
        | forward => simp [Layout.withNewer]
        | reverse => simp [Layout.withNewer]
      · rw [hrest.added, hone.added, hsplit, List.length_append, Nat.add_assoc]

def emptied (f : Feed α κ ρ ε) : Feed α κ ρ ε :=
  { f with listing := { f.listing with queue := ⟨[]⟩ } }

omit [DecidableEq κ] in
theorem Faithful.emptied {f : Feed α κ ρ ε} (h : f.Faithful) : f.emptied.Faithful :=
  ⟨h.sound.setQueue List.nodup_nil (fun _ hk => absurd hk List.not_mem_nil), h.rendered⟩

structure Renewed (f : Feed α κ ρ ε) (added : Nat) (grown : Feed α κ ρ ε) : Prop where
  faithful : grown.Faithful
  refilled : Refilled f.emptied grown
  rowKeys : grown.rowKeys = f.layout.withNewer f.rowKeys f.queueKeys
  queueKeys : grown.queueKeys = []
  added : added = f.queueKeys.length

theorem Faithful.renewed {f grown : Feed α κ ρ ε} (h : f.Faithful) {added : Nat}
    (hfold : f.listing.queue.items.reverse.foldl settle (0, f.emptied) = (added, grown)) :
    Renewed f added grown := by
  have hall := settled_foldl h.emptied rfl 0 f.listing.queue.items.reverse
  rw [hfold] at hall
  have hkeys : f.listing.queue.items.reverse.map key = f.queueKeys.reverse :=
    Queue.keys_drain f.listing.queue
  have hunseen : unseen f.rowKeys f.listing.queue.items.reverse = f.queueKeys.reverse := by
    rw [← hkeys]
    apply unseen_eq_map
    · rw [hkeys]
      exact List.nodup_reverse.mpr h.sound.queue_distinct
    · intro k hk
      rw [hkeys, List.mem_reverse] at hk
      exact h.sound.apart k hk
  refine ⟨hall.faithful, hall.refilled, ?_, ?_, ?_⟩
  · have hrows : grown.rowKeys = f.layout.withNewer f.rowKeys
        (unseen f.rowKeys f.listing.queue.items.reverse).reverse := hall.rowKeys
    rw [hrows, hunseen, List.reverse_reverse]
  · exact congrArg Queue.keys hall.queue
  · have hcount : added = 0 + (unseen f.rowKeys f.listing.queue.items.reverse).length :=
      hall.added
    rw [hcount, hunseen, List.length_reverse, Nat.zero_add]

end Feed

end FeedReader
