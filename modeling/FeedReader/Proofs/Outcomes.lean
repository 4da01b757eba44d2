/-!
# Outcomes

What a computation that may fail was made from, where it did not fail.
-/

namespace FeedReader

variable {ε α β : Type}

theorem ok_of_guard {c : Prop} [Decidable c] {e : ε} {x : Except ε β} {result : β}
    (h : (if c then .error e else x) = .ok result) : ¬c ∧ x = .ok result := by
  split at h
  · cases h
  · exact ⟨‹_›, h⟩

theorem ok_of_bind {x : Except ε α} {f : α → Except ε β} {result : β}
    (h : x.bind f = .ok result) : ∃ a, x = .ok a ∧ f a = .ok result := by
  cases x with
  | error e => cases h
  | ok a => exact ⟨a, rfl, h⟩

theorem ok_of_map {x : Except ε α} {f : α → β} {result : β} (h : x.map f = .ok result) :
    ∃ a, x = .ok a ∧ f a = result := by
  cases x with
  | error e => cases h
  | ok a => exact ⟨a, rfl, Except.ok.inj h⟩

theorem exists_map_cons_iff {f : α → Except ε β} {a : α} {l : List α} {P : List β → Prop} :
    (∃ results, (a :: l).map f = results.map .ok ∧ P results) ↔
      ∃ b, f a = .ok b ∧ ∃ results, l.map f = results.map .ok ∧ P (b :: results) := by
  constructor
  · rintro ⟨results, hmap, hP⟩
    obtain ⟨b, results, rfl, hb, hl⟩ := List.map_eq_cons_iff.mp hmap.symm
    exact ⟨b, hb.symm, results, hl.symm, hP⟩
  · rintro ⟨b, hb, results, hl, hP⟩
    exact ⟨b :: results, by rw [List.map_cons, List.map_cons, hb, hl], hP⟩

theorem exists_map_ok_iff {f : α → Except ε β} {l : List α} :
    (∃ results : List β, l.map f = results.map .ok) ↔ ∀ a ∈ l, ∃ b, f a = .ok b := by
  induction l with
  | nil => exact ⟨fun _ => List.forall_mem_nil _, fun _ => ⟨[], rfl⟩⟩
  | cons a l ih =>
      have hcons := @exists_map_cons_iff _ _ _ f a l fun _ => True
      simp only [and_true, exists_and_right] at hcons
      rw [hcons, ih, List.forall_mem_cons]

end FeedReader
