import FeedReader.Proofs.Listing.Keys
import FeedReader.Feed.Basic

/-!
# Placing items among the rows

A page that is absorbed and a queue that is shown are both placed item by item.
Each placing either refreshes the one row of the item's key or adds a row with
that key, so the keys that come in are the unseen ones, each once.
-/

namespace FeedReader

/-- The keys of `items` that are not `known`, each once, in order of first occurrence. -/
def unseen {α κ : Type} [Keyed α κ] [DecidableEq κ] (known : List κ) : List α → List κ
  | [] => []
  | item :: items =>
      if key item ∈ known then unseen known items
      else key item :: unseen (key item :: known) items

variable {α κ ρ ε : Type} [Keyed α κ] [DecidableEq κ]

theorem unseen_singleton (known : List κ) (item : α) :
    unseen known [item] = if key item ∈ known then [] else [key item] := by
  rw [unseen, unseen, unseen]

theorem unseen_congr {known known' : List κ} {items : List α}
    (h : ∀ k ∈ items.map key, (k ∈ known ↔ k ∈ known')) :
    unseen known items = unseen known' items := by
  induction items generalizing known known' with
  | nil => rfl
  | cons item items ih =>
      rw [List.map_cons] at h
      obtain ⟨hitem, hrest⟩ := List.forall_mem_cons.mp h
      have hcons : ∀ k ∈ items.map key, (k ∈ key item :: known ↔ k ∈ key item :: known') := by
        intro k hk
        rw [List.mem_cons, List.mem_cons, hrest k hk]
      simp only [unseen, hitem, ih hrest, ih hcons]

theorem unseen_append (known : List κ) (first second : List α) :
    unseen known (first ++ second) =
      unseen known first ++ unseen (known ++ unseen known first) second := by
  induction first generalizing known with
  | nil => simp [unseen]
  | cons item first ih =>
      rw [List.cons_append, unseen, unseen]
      split
      · exact ih known
      · rw [ih, List.cons_append]
        refine congrArg (key item :: unseen _ first ++ ·) (unseen_congr ?_)
        intro k _
        simp only [List.mem_cons, List.mem_append]
        tauto

theorem mem_unseen (known : List κ) (items : List α) (k : κ) :
    k ∈ unseen known items ↔ k ∉ known ∧ k ∈ items.map key := by
  induction items generalizing known with
  | nil => simp [unseen]
  | cons item items ih =>
      rw [unseen]
      by_cases hk : k = key item
      · subst hk
        split
        · next hitem => simp [ih, hitem]
        · next hitem => simp [hitem]
      · split
        · simp [ih, hk]
        · simp [ih, hk]

theorem unseen_eq_eraseDups (known : List κ) (items : List α) :
    unseen known items = ((items.map key).filter (· ∉ known)).eraseDups := by
  induction items generalizing known with
  | nil => rfl
  | cons item items ih =>
      rw [unseen, List.map_cons]
      split
      · next hknown => rw [ih, List.filter_cons_of_neg (by simpa using hknown)]
      · next hnew =>
          have hsame : ∀ k ∈ items.map key,
              decide (k ∉ key item :: known) = (!k == key item && decide (k ∉ known)) := by
            intro k _
            simp [Bool.beq_eq_decide_eq]
          rw [ih, List.filter_cons_of_pos (by simpa using hnew), List.eraseDups_cons,
            List.filter_filter, List.filter_congr hsame]

theorem unseen_eq_filter {items : List α} (h : (items.map key).Nodup) (known : List κ) :
    unseen known items = (items.map key).filter (· ∉ known) := by
  induction items generalizing known with
  | nil => rfl
  | cons item items ih =>
      obtain ⟨hitem, hrest⟩ := List.nodup_cons.mp h
      rw [unseen, List.map_cons]
      split
      · next hknown =>
          rw [ih hrest, List.filter_cons_of_neg (by simpa using hknown)]
      · next hnew =>
          have hsame : ∀ k ∈ items.map key, decide (k ∉ key item :: known) = decide (k ∉ known) := by
            intro k hk
            have hne : k ≠ key item := fun heq => hitem (heq ▸ hk)
            simp [hne]
          rw [ih hrest, List.filter_congr hsame, List.filter_cons_of_pos (by simpa using hnew)]

theorem unseen_eq_map {known : List κ} {items : List α} (hnodup : (items.map key).Nodup)
    (hnew : ∀ k ∈ items.map key, k ∉ known) : unseen known items = items.map key := by
  rw [unseen_eq_filter hnodup]
  apply List.filter_eq_self.mpr
  intro k hk
  exact decide_eq_true (hnew k hk)

namespace Feed

def rowKeys (f : Feed α κ ρ ε) : List κ := f.listing.rowKeys

def queueKeys (f : Feed α κ ρ ε) : List κ := f.listing.queue.keys

omit [DecidableEq κ] in
theorem length_rowKeys (f : Feed α κ ρ ε) : f.rowKeys.length = f.listing.size :=
  Listing.length_rowKeys f.listing

/-- The listing is sound and each row shows what the render function makes of its item. -/
structure Faithful (f : Feed α κ ρ ε) : Prop where
  sound : f.listing.Sound
  rendered : ∀ row ∈ f.listing.rows, row.node = f.render row.item

omit [DecidableEq κ] in
theorem Faithful.congr {f g : Feed α κ ρ ε} (h : f.Faithful)
    (hrows : g.listing.rows = f.listing.rows) (hkeys : g.listing.keys = f.listing.keys)
    (hqueue : g.listing.queue = f.listing.queue) (hrender : g.render = f.render) :
    g.Faithful := by
  have hrowKeys : g.listing.rowKeys = f.listing.rowKeys := congrArg (List.map _) hrows
  obtain ⟨⟨hrowsDistinct, hkeysDistinct, hmem, hqueueDistinct, hapart⟩, hrendered⟩ := h
  rw [← hrowKeys] at hrowsDistinct hmem hapart
  rw [← hkeys] at hkeysDistinct hmem
  rw [← hqueue] at hqueueDistinct hapart
  rw [← hrows, ← hrender] at hrendered
  exact ⟨⟨hrowsDistinct, hkeysDistinct, hmem, hqueueDistinct, hapart⟩, hrendered⟩

structure SameOptions (f g : Feed α κ ρ ε) : Prop where
  render : g.render = f.render
  pluralize : g.pluralize = f.pluralize
  pageSize : g.pageSize = f.pageSize
  layout : g.layout = f.layout
  sentinelDistance : g.sentinelDistance = f.sentinelDistance
  cursorless : g.cursorless = f.cursorless

omit [Keyed α κ] [DecidableEq κ] in
theorem SameOptions.refl (f : Feed α κ ρ ε) : SameOptions f f := by
  constructor <;> rfl

omit [Keyed α κ] [DecidableEq κ] in
theorem SameOptions.trans {f g h : Feed α κ ρ ε} (first : SameOptions f g)
    (second : SameOptions g h) : SameOptions f h where
  render := second.render.trans first.render
  pluralize := second.pluralize.trans first.pluralize
  pageSize := second.pageSize.trans first.pageSize
  layout := second.layout.trans first.layout
  sentinelDistance := second.sentinelDistance.trans first.sentinelDistance
  cursorless := second.cursorless.trans first.cursorless

structure Refilled (f g : Feed α κ ρ ε) : Prop extends SameOptions f g where
  trigger : g.trigger = f.trigger
  cursor : g.listing.cursor = f.listing.cursor
  noMore : g.listing.noMore = f.listing.noMore
  loading : g.listing.loading = f.listing.loading
  placeholder : g.placeholder = f.placeholder
  focus : g.focus = f.focus
  generation : g.generation = f.generation
  attachments : g.attachments = f.attachments
  tornDown : g.tornDown = f.tornDown

omit [Keyed α κ] [DecidableEq κ] in
theorem Refilled.refl (f : Feed α κ ρ ε) : Refilled f f :=
  ⟨.refl f, rfl, rfl, rfl, rfl, rfl, rfl, rfl, rfl, rfl⟩

omit [Keyed α κ] [DecidableEq κ] in
theorem Refilled.trans {f g h : Feed α κ ρ ε} (first : Refilled f g) (second : Refilled g h) :
    Refilled f h where
  toSameOptions := first.toSameOptions.trans second.toSameOptions
  trigger := second.trigger.trans first.trigger
  cursor := second.cursor.trans first.cursor
  noMore := second.noMore.trans first.noMore
  loading := second.loading.trans first.loading
  placeholder := second.placeholder.trans first.placeholder
  focus := second.focus.trans first.focus
  generation := second.generation.trans first.generation
  attachments := second.attachments.trans first.attachments
  tornDown := second.tornDown.trans first.tornDown

/-! ## One item -/

omit [DecidableEq κ] in
theorem rowKeys_refreshed {f : Feed α κ ρ ε} {index : Nat} {item : α}
    (h : f.rowKeys[index]? = some (key item)) :
    (f.listing.update index ⟨item, f.render item⟩).rowKeys = f.rowKeys :=
  Listing.rowKeys_update h

theorem place_cases {f : Feed α κ ρ ε} (h : f.listing.Sound) (index : Nat) (item : α) :
    (∃ present, f.rowKeys[present]? = some (key item) ∧
      f.place index item = (.merged, { f with
        listing := f.listing.update present ⟨item, f.render item⟩
        log := f.log ++ [.rendered item] })) ∨
    (key item ∉ f.rowKeys ∧
      f.place index item = (.inserted, { f with
        listing := (f.listing.insert index ⟨item, f.render item⟩).2
        log := f.log ++ [.rendered item] })) := by
  cases hpos : f.listing.position (key item) with
  | some present =>
      refine Or.inl ⟨present, (h.position_eq_some_iff _ _).mp hpos, ?_⟩
      simp only [place, hpos]
  | none =>
      refine Or.inr ⟨(h.position_eq_none_iff _).mp hpos, ?_⟩
      simp only [place, hpos]

theorem refilled_place (f : Feed α κ ρ ε) (index : Nat) (item : α) :
    Refilled f (f.place index item).2 := by
  rw [place]
  split
  · exact ⟨⟨rfl, rfl, rfl, rfl, rfl, rfl⟩, rfl, rfl, rfl, rfl, rfl, rfl, rfl, rfl, rfl⟩
  · have hinsert : ∀ row, (f.listing.insert index row).2.cursor = f.listing.cursor ∧
        (f.listing.insert index row).2.noMore = f.listing.noMore ∧
        (f.listing.insert index row).2.loading = f.listing.loading := by
      intro row
      rw [Listing.insert]
      split
      · exact ⟨rfl, rfl, rfl⟩
      · exact ⟨rfl, rfl, rfl⟩
    obtain ⟨hcursor, hnoMore, hloading⟩ := hinsert ⟨item, f.render item⟩
    exact ⟨⟨rfl, rfl, rfl, rfl, rfl, rfl⟩, rfl, hcursor, hnoMore, hloading, rfl, rfl, rfl, rfl,
      rfl⟩

theorem rowKeys_place {f : Feed α κ ρ ε} (h : f.listing.Sound) (index : Nat) (item : α) :
    (f.place index item).2.rowKeys =
      if key item ∈ f.rowKeys then f.rowKeys
      else f.rowKeys.insertIdx (min index f.listing.size) (key item) := by
  rcases place_cases h index item with ⟨present, hpresent, hplace⟩ | ⟨hnew, hplace⟩
  · rw [hplace, if_pos (List.mem_of_getElem? hpresent)]
    exact rowKeys_refreshed hpresent
  · rw [hplace, if_neg hnew]
    exact Listing.rowKeys_insert h index _ hnew

theorem place_fst {f : Feed α κ ρ ε} (h : f.listing.Sound) (index : Nat) (item : α) :
    (f.place index item).1 = if key item ∈ f.rowKeys then .merged else .inserted := by
  rcases place_cases h index item with ⟨present, hpresent, hplace⟩ | ⟨hnew, hplace⟩
  · rw [hplace, if_pos (List.mem_of_getElem? hpresent)]
  · rw [hplace, if_neg hnew]

theorem queue_place (f : Feed α κ ρ ε) (index : Nat) (item : α) :
    (f.place index item).2.listing.queue = f.listing.queue := by
  rw [place]
  split
  · rfl
  · simp only [Listing.insert]
    split <;> rfl

theorem Faithful.place {f : Feed α κ ρ ε} (h : f.Faithful) (index : Nat) (item : α)
    (hqueue : key item ∉ f.queueKeys) : (f.place index item).2.Faithful := by
  rcases place_cases h.sound index item with ⟨present, hpresent, hplace⟩ | ⟨hnew, hplace⟩
  · rw [hplace]
    refine ⟨h.sound.update hpresent, ?_⟩
    intro row hrow
    rcases List.mem_or_eq_of_mem_set hrow with hold | rfl
    · exact h.rendered row hold
    · rfl
  · rw [hplace]
    refine ⟨h.sound.insert index _ hnew hqueue, ?_⟩
    intro row hrow
    have hfresh : key item ∉ f.listing.keys := mt (h.sound.mem_keys _).mp hnew
    simp only [Listing.insert, if_neg hfresh] at hrow
    rcases List.eq_or_mem_of_mem_insertIdx hrow with rfl | hold
    · rfl
    · exact h.rendered row hold

omit [Keyed α κ] [DecidableEq κ] in
private theorem insertIdx_between (above below : List κ) (k : κ) :
    (above ++ below).insertIdx above.length k = above ++ [k] ++ below := by
  induction above with
  | nil => rfl
  | cons head above ih => simpa using ih

theorem rowKeys_place_between {f : Feed α κ ρ ε} (h : f.listing.Sound) {above below : List κ}
    (hrows : f.rowKeys = above ++ below) (item : α) :
    (f.place above.length item).2.rowKeys =
      above ++ (if key item ∈ above ++ below then [] else [key item]) ++ below := by
  have hsize : f.listing.size = above.length + below.length := by
    rw [← length_rowKeys, ← List.length_append, ← hrows]
  rw [rowKeys_place h, hrows]
  split
  · simp
  · rw [hsize, Nat.min_eq_left (Nat.le_add_right _ _)]
    exact insertIdx_between above below (key item)

end Feed

end FeedReader
