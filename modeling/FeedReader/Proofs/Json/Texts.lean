import FeedReader.Proofs.Json.Grammar

/-!
# Values inside of other texts

A text that holds one value is read by itself as it is read inside of a list or an object.
-/

namespace FeedReader.Json

/-! ## One value -/

/-- `t` is `value` with blanks before it, and the blanks `after` it. -/
structure Holds (t value after : Bytes) : Prop where
  front : ∀ x, skipSpace (t ++ x) = value ++ (after ++ x)
  blank : IsBlank after
  reads : Reads skipValue value ()

def HoldsValue (t : Bytes) : Prop := ∃ value after, Holds t value after

theorem Written.exists_head {t : Bytes} (h : Written .value t) :
    ∃ b s, t = b :: s ∧ isSpace b = false := by
  cases h with
  | number hnumber =>
      obtain ⟨d, digits, rfl, hd⟩ := hnumber.digits.exists_head
      exact ⟨d, _, rfl, isSpace_of_isDigit hd⟩
  | _ => exact ⟨_, _, rfl, rfl⟩

theorem IsText.holdsValue {t : Bytes} (h : IsText t) : HoldsValue t := by
  cases h with
  | @padded before value after hbefore hvalue hafter =>
      obtain ⟨b, s, rfl, hspace⟩ := hvalue.exists_head
      refine ⟨b :: s, after, fun x => ?_, hafter, reads_skipValue hvalue.passes⟩
      rw [List.append_assoc, hbefore.skipSpace_append, List.append_assoc]
      exact skipSpace_cons hspace _

theorem isBlank_of_skipSpace {s : Bytes} (h : skipSpace s = []) : IsBlank s := by
  have hs := @List.takeWhile_append_dropWhile _ isSpace s
  rw [← skipSpace, h, List.append_nil] at hs
  rw [← hs]
  exact List.all_eq_true.mp List.all_takeWhile

theorem skipSpace_eq_nil {blank : Bytes} (h : IsBlank blank) : skipSpace blank = [] := by
  simpa [skipSpace] using h.skipSpace_append []

theorem readAll_eq_ok {α : Type} {read : Reader α} {t : Bytes} {a : α}
    (h : readAll read t = .ok a) :
    ∃ rest, read (t.length + 1) t = .ok (a, rest) ∧ skipSpace rest = [] := by
  obtain ⟨⟨a', rest⟩, ha, hend⟩ := ok_of_bind h
  dsimp only at hend
  split at hend
  · next hrest =>
      cases hend
      exact ⟨rest, ha, List.isEmpty_iff.mp hrest⟩
  · cases hend

theorem Whole.holdsValue {α : Type} {read : Reader α} (h : Whole read) {t : Bytes} {a : α}
    (hread : readAll read t = .ok a) : HoldsValue t := by
  obtain ⟨rest, ha, hrest⟩ := readAll_eq_ok hread
  obtain ⟨value, hs, hreads⟩ := h _ _ _ _ ha
  cases value with
  | nil => exact absurd rfl hreads.ne_nil
  | cons b value =>
      obtain ⟨blank, rfl, hblank⟩ := skipSpace_eq_cons hs
      have hspace : ∀ x, skipSpace (b :: x) = b :: x :=
        fun x => List.dropWhile_cons_of_neg (not_isSpace_of_skipSpace hs)
      refine ⟨b :: value, rest, fun x => ?_, isBlank_of_skipSpace hrest, reads_skipValue ?_⟩
      · have hsame : blank ++ b :: (value ++ rest) ++ x = blank ++ b :: (value ++ (rest ++ x)) := by
          simp
        exact (congrArg skipSpace hsame).trans (hblank _)
      · exact fun x hx => hreads.passes _ x (hspace _) hx

namespace Holds

variable {α β : Type} {read : Reader α} {t value after s x : Bytes} {budget : Nat}

theorem readAll_eq_ok_iff (h : Holds t value after) (hread : Whole read) {a : α} :
    readAll read t = .ok a ↔ Reads read value a := by
  have hfront : skipSpace t = value ++ after := by simpa using h.front []
  have hends : EndsNumber after := by simpa using h.blank.endsNumber endsNumber_nil
  constructor
  · intro hall
    obtain ⟨rest, ha, hrest⟩ := Json.readAll_eq_ok hall
    have hends' : EndsNumber rest := endsNumber_of_skipSpace (hrest ▸ endsNumber_nil)
    exact (hread.agree h.reads hfront hends ha hends').2
  · intro hreads
    have htakes := hreads.takes t after hfront hends (t.length + 1) (Nat.lt_succ_self _)
    simp [readAll, htakes, bind, Except.bind, skipSpace_eq_nil h.blank, pure, Except.pure]

theorem bind_eq_ok_iff (h : Holds t value after) (hread : Whole read)
    (hs : skipSpace s = value ++ (after ++ x)) (hx : EndsNumber x) (hbudget : s.length < budget)
    {next : α × Bytes → Except Fault β} (hnext : ∀ r b, next r = .ok b → EndsNumber r.2) {b : β} :
    (read budget s).bind next = .ok b ↔
      ∃ a, readAll read t = .ok a ∧ next (a, after ++ x) = .ok b := by
  have hends := h.blank.endsNumber hx
  constructor
  · intro hbind
    obtain ⟨⟨a, rest⟩, ha, hrest⟩ := ok_of_bind hbind
    obtain ⟨rfl, hreads⟩ := hread.agree h.reads hs hends ha (hnext _ _ hrest)
    exact ⟨a, (h.readAll_eq_ok_iff hread).mpr hreads, hrest⟩
  · rintro ⟨a, ha, hrest⟩
    have hreads := (h.readAll_eq_ok_iff hread).mp ha
    rw [hreads.takes s _ hs hends budget hbudget]
    exact hrest

theorem skipSpace_value (h : Holds t value after) :
    skipSpace (value ++ (after ++ x)) = value ++ (after ++ x) := by
  rw [← h.front, skipSpace_skipSpace]

theorem length_le (h : Holds t value after) : value.length + after.length ≤ t.length := by
  have hlength := length_skipSpace_le (t ++ [])
  rw [h.front] at hlength
  simpa using hlength

theorem value_eq_cons (h : Holds t value after) :
    ∃ b rest, value = b :: rest ∧ b ≠ closeBracket := by
  cases value with
  | nil => exact absurd rfl h.reads.ne_nil
  | cons b rest =>
      refine ⟨b, rest, rfl, ?_⟩
      rintro rfl
      have hspace : skipSpace (closeBracket :: rest) = closeBracket :: rest ++ [] := by
        rw [List.append_nil]
        exact skipSpace_cons rfl rest
      cases h.reads.takes _ [] hspace endsNumber_nil _ (Nat.lt_succ_self _)

/-! ## Lists of values -/

theorem nextItem_first (h : Holds t value after) :
    nextItem true (t ++ x) = .ok (true, value ++ (after ++ x)) := by
  have hfront := h.front x
  obtain ⟨b, rest, rfl, hb⟩ := h.value_eq_cons
  rw [nextItem, hfront]
  simp [hb]

theorem nextItem_more (h : Holds t value after) {blank : Bytes} (hblank : IsBlank blank) :
    nextItem false (blank ++ comma :: (t ++ x)) = .ok (true, value ++ (after ++ x)) := by
  have hcomma : skipSpace (blank ++ comma :: (t ++ x)) = comma :: (t ++ x) :=
    hblank.skipSpace_append _
  have hne : comma ≠ closeBracket := by decide
  have hfront := h.front x
  obtain ⟨b, rest, rfl, hb⟩ := h.value_eq_cons
  rw [nextItem, hcomma]
  simp [hne, hfront, hb]

theorem items_eq_ok_iff (h : Holds t value after) (hread : Whole read) {found : List α}
    (hnext : nextItem found.isEmpty s = .ok (true, value ++ (after ++ x))) (hx : EndsNumber x)
    (hbudget : (value ++ (after ++ x)).length < budget) {r : List α × Bytes} :
    items read found (budget + 1) s = .ok r ↔
      ∃ a, readAll read t = .ok a ∧ items read (a :: found) budget (after ++ x) = .ok r := by
  rw [items_succ, hnext]
  exact h.bind_eq_ok_iff hread h.skipSpace_value hx hbudget
    fun r b hr => endsNumber_of_items rfl hr

end Holds

theorem items_close {α : Type} (read : Reader α) (found : List α) (budget : Nat) {blank : Bytes}
    (hblank : IsBlank blank) (x : Bytes) :
    items read found (budget + 1) (blank ++ closeBracket :: x) = .ok (found.reverse, x) := by
  have hclose : skipSpace (blank ++ closeBracket :: x) = closeBracket :: x :=
    hblank.skipSpace_append _
  have hnext : nextItem found.isEmpty (blank ++ closeBracket :: x) =
      .ok (false, closeBracket :: x) := by
    rw [nextItem, hclose]
    rfl
  rw [items_succ, hnext]
  rfl

section

variable {α : Type} {read : Reader α} {texts : List Bytes}

def moreItems (texts : List Bytes) (x : Bytes) : Bytes :=
  texts.foldr (fun t rest => comma :: (t ++ rest)) (closeBracket :: x)

theorem endsNumber_moreItems (texts : List Bytes) (x : Bytes) : EndsNumber (moreItems texts x) := by
  cases texts with
  | nil => exact endsNumber_cons rfl
  | cons t texts => exact endsNumber_cons rfl

theorem items_moreItems (hread : Whole read) (htexts : ∀ t ∈ texts, HoldsValue t) {found : List α}
    (hfound : found.isEmpty = false) {blank : Bytes} (hblank : IsBlank blank) {x : Bytes}
    {budget : Nat} (hbudget : (blank ++ moreItems texts x).length < budget)
    {r : List α × Bytes} :
    items read found budget (blank ++ moreItems texts x) = .ok r ↔
      ∃ more, texts.map (readAll read) = more.map .ok ∧ (found.reverse ++ more, x) = r := by
  induction texts generalizing found blank budget with
  | nil =>
      obtain ⟨budget, rfl⟩ := Nat.exists_eq_add_one.mpr (Nat.zero_lt_of_lt hbudget)
      rw [moreItems, List.foldr_nil, items_close read found budget hblank]
      simp
  | cons t texts ih =>
      obtain ⟨ht, htexts⟩ := List.forall_mem_cons.mp htexts
      obtain ⟨value, after, hholds⟩ := ht
      obtain ⟨budget, rfl⟩ := Nat.exists_eq_add_one.mpr (Nat.zero_lt_of_lt hbudget)
      have hnext : nextItem found.isEmpty (blank ++ moreItems (t :: texts) x) =
          .ok (true, value ++ (after ++ moreItems texts x)) := by
        rw [hfound]
        exact hholds.nextItem_more hblank
      have hlength := hholds.length_le
      simp only [moreItems, List.foldr_cons, List.length_append, List.length_cons] at hbudget
      rw [hholds.items_eq_ok_iff hread hnext (endsNumber_moreItems texts x)
        (by simp [moreItems]; omega), exists_map_cons_iff]
      refine exists_congr fun a => and_congr_right fun _ => ?_
      rw [ih htexts rfl hholds.blank (by simp [moreItems]; omega), List.reverse_cons]
      simp only [List.append_assoc, List.singleton_append]

def itemsText : List Bytes → Bytes → Bytes
  | [], x => closeBracket :: x
  | t :: texts, x => t ++ moreItems texts x

theorem length_lt_moreItems (texts : List Bytes) (x : Bytes) :
    x.length < (moreItems texts x).length := by
  induction texts with
  | nil => exact Nat.lt_succ_self _
  | cons t texts ih =>
      change _ < (comma :: (t ++ moreItems texts x)).length
      rw [List.length_cons, List.length_append]
      omega

theorem length_lt_itemsText (texts : List Bytes) (x : Bytes) :
    x.length < (itemsText texts x).length := by
  cases texts with
  | nil => exact Nat.lt_succ_self _
  | cons t texts =>
      have hmore := length_lt_moreItems texts x
      rw [itemsText, List.length_append]
      omega

theorem list_eq_ok_iff (hread : Whole read) (htexts : ∀ t ∈ texts, HoldsValue t) {x : Bytes}
    {budget : Nat} (hbudget : (itemsText texts x).length + 1 < budget) {r : List α × Bytes} :
    list read budget (openBracket :: itemsText texts x) = .ok r ↔
      ∃ l, texts.map (readAll read) = l.map .ok ∧ (l, x) = r := by
  obtain ⟨budget, rfl⟩ := Nat.exists_eq_add_one.mpr (Nat.zero_lt_of_lt hbudget)
  change items read [] (budget + 1) (itemsText texts x) = _ ↔ _
  cases texts with
  | nil =>
      have hclose := items_close read [] budget (List.forall_mem_nil _) x
      rw [List.nil_append] at hclose
      rw [itemsText, hclose]
      simp
  | cons t texts =>
      obtain ⟨ht, htexts⟩ := List.forall_mem_cons.mp htexts
      obtain ⟨value, after, hholds⟩ := ht
      have hlength := hholds.length_le
      have hnext : nextItem ([] : List α).isEmpty (t ++ moreItems texts x) =
          .ok (true, value ++ (after ++ moreItems texts x)) := hholds.nextItem_first
      simp only [itemsText, List.length_append] at hbudget
      rw [itemsText, hholds.items_eq_ok_iff hread hnext (endsNumber_moreItems texts x)
        (by simp; omega), exists_map_cons_iff]
      refine exists_congr fun a => and_congr_right fun _ => ?_
      exact items_moreItems hread htexts rfl hholds.blank (by simp; omega)

theorem list_bind_eq_ok_iff {β : Type} (hread : Whole read) (htexts : ∀ t ∈ texts, HoldsValue t)
    {x : Bytes} {budget : Nat} (hbudget : (itemsText texts x).length + 1 < budget)
    {next : List α × Bytes → Except Fault β} {b : β} :
    (list read budget (openBracket :: itemsText texts x)).bind next = .ok b ↔
      ∃ l, texts.map (readAll read) = l.map .ok ∧ next (l, x) = .ok b := by
  constructor
  · intro hbind
    obtain ⟨r, hlist, hrest⟩ := ok_of_bind hbind
    obtain ⟨l, hl, rfl⟩ := (list_eq_ok_iff hread htexts hbudget).mp hlist
    exact ⟨l, hl, hrest⟩
  · rintro ⟨l, hl, hrest⟩
    rw [(list_eq_ok_iff hread htexts hbudget).mpr ⟨l, hl, rfl⟩]
    exact hrest

end

end FeedReader.Json
