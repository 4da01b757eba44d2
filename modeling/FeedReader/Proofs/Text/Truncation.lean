import FeedReader.Proofs.Text.Columns
import FeedReader.Text.Truncate

/-!
# What a cut text keeps within

A text is cut where its characters, each by itself, no longer fit, but whether it has to be cut
and whether it fits then is a matter of the whole text.  So a cut text is too wide by as many
columns as the characters that it keeps gain, and by no more.
-/

namespace FeedReader.Text

/-! ## The part that is kept -/

theorem fitting_isPrefix (budget : Nat) (s : List Char) : fitting budget s <+: s := by
  induction s generalizing budget with
  | nil => exact List.prefix_refl []
  | cons c rest ih =>
      rw [fitting]
      split
      · exact List.cons_prefix_cons.mpr ⟨rfl, ih _⟩
      · exact List.nil_prefix

theorem columnSum_fitting_le (budget : Nat) (s : List Char) :
    columnSum (fitting budget s) ≤ budget := by
  induction s generalizing budget with
  | nil => exact Nat.zero_le _
  | cons c rest ih =>
      rw [fitting]
      split
      · next hfits =>
          have hrest := ih (budget - columns c)
          rw [columnSum]
          omega
      · exact Nat.zero_le _

theorem measured_concat_ellipsis (s : List Char) :
    measured (s ++ [ellipsis]) = ((measured s).1 + 1, (measured s).2) := by
  induction s with
  | nil => decide +kernel
  | cons c rest ih =>
      rw [List.cons_append, measured_cons, ih, measured_cons]
      dsimp only
      rw [Int.add_right_comm]

theorem width_concat_ellipsis_le_iff (s : List Char) {limit : Nat} (h : 0 < limit) :
    width (s ++ [ellipsis]) ≤ limit ↔ width s < limit := by
  rw [width_eq, width_eq, measured_concat_ellipsis]
  omega

/-! ## Cut texts -/

/-- What a text cut to `limit` columns ought to be. -/
structure IsCut (s : String) (limit : Nat) (cut : String) : Prop where
  fits : displayWidth cut ≤ limit
  whole : cut = s ↔ displayWidth s ≤ limit
  shortened : limit < displayWidth s → 0 < limit →
    ∃ front, front <+: s.toList ∧ front ≠ s.toList ∧ cut = String.ofList (front ++ [ellipsis])

variable {s : String} {limit : Nat}

theorem truncate_of_le (h : displayWidth s ≤ limit) : truncate s limit = s := by
  rw [truncate, if_pos h]

theorem truncate_of_lt (h : limit < displayWidth s) (hlimit : 0 < limit) :
    truncate s limit = String.ofList (fitting (limit - 1) s.toList ++ [ellipsis]) := by
  rw [truncate, if_neg (Nat.not_le.mpr h), if_neg (Nat.ne_of_gt hlimit)]

theorem isCut_of_le (h : displayWidth s ≤ limit) : IsCut s limit (truncate s limit) := by
  rw [truncate_of_le h]
  exact ⟨h, iff_of_true rfl h, fun hlt => absurd h (Nat.not_le.mpr hlt)⟩

theorem isCut_zero (s : String) : IsCut s 0 (truncate s 0) := by
  by_cases h : displayWidth s ≤ 0
  · exact isCut_of_le h
  · have hcut : truncate s 0 = "" := by rw [truncate, if_neg h, if_pos rfl]
    have hempty : displayWidth "" ≤ 0 := by decide
    rw [hcut]
    refine ⟨hempty, iff_of_false ?_ h, fun _ hlimit => absurd hlimit (Nat.lt_irrefl 0)⟩
    rintro rfl
    exact h hempty

theorem isCut_iff_of_lt (h : limit < displayWidth s) (hlimit : 0 < limit) :
    IsCut s limit (truncate s limit) ↔ width (fitting (limit - 1) s.toList) < limit := by
  rw [← width_concat_ellipsis_le_iff _ hlimit]
  have hcut := truncate_of_lt h hlimit
  have hwidth : displayWidth (truncate s limit) =
      width (fitting (limit - 1) s.toList ++ [ellipsis]) := by
    rw [hcut, displayWidth, String.toList_ofList]
  rw [← hwidth]
  refine ⟨IsCut.fits, fun hfits => ⟨hfits, iff_of_false ?_ (Nat.not_le.mpr h), ?_⟩⟩
  · intro heq
    rw [heq] at hfits
    exact Nat.not_le.mpr h hfits
  · intro _ _
    refine ⟨_, fitting_isPrefix (limit - 1) s.toList, ?_, hcut⟩
    intro hall
    rw [hwidth, width_concat_ellipsis_le_iff _ hlimit, hall] at hfits
    exact Nat.lt_asymm h hfits

theorem width_fitting_lt (s : List Char) (h : 0 < limit) :
    width (fitting (limit - 1) s) < limit + gains (fitting (limit - 1) s) := by
  have hwidth := width_le (fitting (limit - 1) s)
  have hsum := columnSum_fitting_le (limit - 1) s
  omega

/--
A text is cut as it ought to be just if it need not be cut, or nothing may be left of it, or the
characters that are kept are no wider as a whole than what they have to share.  A cut text is
too wide by no more columns than these characters gain, and a text in which no character gains
any is cut as it ought to be, to whatever number of columns.
-/
theorem isCut_truncate_iff (s : String) (limit : Nat) :
    (IsCut s limit (truncate s limit) ↔
      displayWidth s ≤ limit ∨ limit = 0 ∨ width (fitting (limit - 1) s.toList) < limit) ∧
    displayWidth (truncate s limit) ≤ limit + gains (fitting (limit - 1) s.toList) ∧
    (gains s.toList = 0 → IsCut s limit (truncate s limit)) := by
  by_cases hle : displayWidth s ≤ limit
  · have hcut := isCut_of_le hle
    exact ⟨iff_of_true hcut (.inl hle), Nat.le_add_right_of_le hcut.fits, fun _ => hcut⟩
  · rcases Nat.eq_zero_or_pos limit with rfl | hpos
    · have hcut := isCut_zero s
      exact ⟨iff_of_true hcut (.inr (.inl rfl)), Nat.le_add_right_of_le hcut.fits, fun _ => hcut⟩
    · have hlt := Nat.lt_of_not_le hle
      have hiff := isCut_iff_of_lt hlt hpos
      have hkept := width_fitting_lt s.toList hpos
      refine ⟨?_, ?_, ?_⟩
      · rw [hiff]
        simp only [hle, Nat.ne_of_gt hpos, false_or]
      · rw [truncate_of_lt hlt hpos, displayWidth, String.toList_ofList,
          width_concat_ellipsis_le_iff _ (Nat.add_pos_left hpos _)]
        exact hkept
      · intro hnone
        obtain ⟨rest, hrest⟩ := fitting_isPrefix (limit - 1) s.toList
        have hgains := gains_le_append (fitting (limit - 1) s.toList) rest
        rw [hrest, hnone] at hgains
        rw [hiff]
        omega

def crowd : String := "👩\u200d👧 \u0644\u0627 \u4f60"

theorem isCut_truncate_of_crowd :
    gains crowd.toList = 0 ∧ displayWidth crowd = 7 ∧ IsCut crowd 5 (truncate crowd 5) := by
  have hnone : gains crowd.toList = 0 := by decide +kernel
  exact ⟨hnone, by decide +kernel, (isCut_truncate_iff crowd 5).2.2 hnone⟩

/-- Two hearts in pictures, each with a column of its own and one that it gains. -/
theorem not_isCut_of_hearts :
    displayWidth "\u2764\ufe0f\u2764\ufe0f" = 4 ∧
      truncate "\u2764\ufe0f\u2764\ufe0f" 2 = "\u2764\ufe0f…" ∧
      displayWidth "\u2764\ufe0f…" = 3 ∧
      ¬IsCut "\u2764\ufe0f\u2764\ufe0f" 2 (truncate "\u2764\ufe0f\u2764\ufe0f" 2) := by
  have hcut : truncate "\u2764\ufe0f\u2764\ufe0f" 2 = "\u2764\ufe0f…" := by decide +kernel
  have hwidth : displayWidth "\u2764\ufe0f…" = 3 := by decide +kernel
  refine ⟨by decide +kernel, hcut, hwidth, ?_⟩
  rw [hcut]
  intro h
  have hfits := h.fits
  rw [hwidth] at hfits
  exact absurd hfits (by decide)

end FeedReader.Text
