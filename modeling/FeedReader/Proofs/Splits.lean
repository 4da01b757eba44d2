import Mathlib.Data.List.Induction

/-!
# Where a list is split and joined

Whole runs are followed from their ends, so what is said of one entry and those after it
has to be said of the last entry too.  An entry that is found by its index is what stands
between those before it and those after it.  Where lists are joined, an entry is the one that
joins them or comes from one of them.
-/

namespace FeedReader

theorem append_singleton_eq_split_iff {β : Type} {xs before after : List β} {x y : β} :
    xs ++ [x] = before ++ y :: after ↔
      (after = [] ∧ xs = before ∧ x = y) ∨
        ∃ middle, after = middle ++ [x] ∧ xs = before ++ y :: middle := by
  constructor
  · intro h
    rcases List.eq_nil_or_concat after with rfl | ⟨middle, last, rfl⟩
    · exact .inl ⟨rfl, List.append_singleton_inj.mp h⟩
    · rw [List.concat_eq_append, ← List.cons_append, ← List.append_assoc] at h
      obtain ⟨hxs, rfl⟩ := List.append_singleton_inj.mp h
      exact .inr ⟨middle, List.concat_eq_append, hxs⟩
  · rintro (⟨rfl, rfl, rfl⟩ | ⟨middle, rfl, rfl⟩)
    · rfl
    · simp

theorem exists_split_of_not_mem {β : Type} {xs ys before after : List β} {y : β} (h : y ∉ ys)
    (hsplit : xs ++ ys = before ++ y :: after) : ∃ middle, xs = before ++ y :: middle := by
  rcases List.append_eq_append_iff.mp hsplit with ⟨rest, -, hys⟩ | ⟨rest, hxs, hrest⟩
  · exact absurd (by simp [hys]) h
  · cases rest with
    | nil =>
        rw [List.nil_append] at hrest
        exact absurd (by simp [← hrest]) h
    | cons first rest =>
        obtain ⟨rfl, -⟩ := List.cons.inj hrest
        exact ⟨rest, hxs⟩

theorem exists_split_of_getElem? {β : Type} {xs : List β} {index : Nat} {x : β}
    (h : xs[index]? = some x) :
    ∃ before after, xs = before ++ x :: after ∧ before.length = index ∧
      xs.eraseIdx index = before ++ after := by
  obtain ⟨hindex, rfl⟩ := List.getElem?_eq_some_iff.mp h
  refine ⟨xs.take index, xs.drop (index + 1), ?_, List.length_take_of_le (Nat.le_of_lt hindex),
    List.eraseIdx_eq_take_drop_succ xs index⟩
  rw [List.getElem_cons_drop hindex, List.take_append_drop]

theorem mem_intercalate {α : Type} {x sep : α} {pieces : List (List α)}
    (h : x ∈ [sep].intercalate pieces) : x = sep ∨ ∃ piece ∈ pieces, x ∈ piece := by
  induction pieces with
  | nil => cases h
  | cons piece pieces ih =>
      cases pieces with
      | nil =>
          rw [List.intercalate_singleton] at h
          exact .inr ⟨piece, List.mem_cons_self, h⟩
      | cons next pieces =>
          rw [List.intercalate_cons_cons, List.mem_append, List.mem_append,
            List.mem_singleton] at h
          obtain (hpiece | rfl) | hrest := h
          · exact .inr ⟨piece, List.mem_cons_self, hpiece⟩
          · exact .inl rfl
          · obtain rfl | ⟨other, hother, hin⟩ := ih hrest
            · exact .inl rfl
            · exact .inr ⟨other, List.mem_cons_of_mem _ hother, hin⟩

end FeedReader
