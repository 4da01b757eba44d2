import FeedReader.Session.Frame
import FeedReader.Proofs.Text.Columns
import Mathlib.Tactic.IntervalCases

/-!
# The age column

A row begins with the age of its entry, padded with spaces, and what the row has to say follows it.
Ages of less than a week and dates of the current year leave room for a space.  A date that shows
its year takes more columns than are kept for it, so no space follows it and the row starts too far
to the right.
-/

namespace FeedReader

/-! ## Dates -/

namespace Time

theorem dayOfYear_bounds {dayOfEra yearOfEra : Int} (hlow : 0 ≤ dayOfEra)
    (hhigh : dayOfEra < 146097)
    (hyear : yearOfEra =
      (dayOfEra - dayOfEra / 1460 + dayOfEra / 36524 - dayOfEra / 146096) / 365) :
    0 ≤ dayOfEra - (365 * yearOfEra + yearOfEra / 4 - yearOfEra / 100) ∧
      dayOfEra - (365 * yearOfEra + yearOfEra / 4 - yearOfEra / 100) ≤ 365 := by
  have hcentury : yearOfEra / 100 = dayOfEra / 36524 - dayOfEra / 146096 := by
    have hcases : dayOfEra / 36524 = 0 ∨ dayOfEra / 36524 = 1 ∨ dayOfEra / 36524 = 2 ∨
        dayOfEra / 36524 = 3 ∨ dayOfEra / 36524 = 4 := by omega
    obtain hlast | rfl : dayOfEra / 146096 = 0 ∨ dayOfEra = 146096 := by omega
    · rcases hcases with h | h | h | h | h <;> omega
    · subst hyear
      decide
  have hlater : 4 * (dayOfEra / 1460) - 4 ≤ yearOfEra := by omega
  have hearlier : yearOfEra ≤ 4 * (dayOfEra / 1460) + 3 := by omega
  omega

theorem ofDays_bounds (days : Int) :
    (1 ≤ (Date.ofDays days).month ∧ (Date.ofDays days).month ≤ 12) ∧
      1 ≤ (Date.ofDays days).day ∧ (Date.ofDays days).day ≤ 31 := by
  have hlow : 0 ≤ (days + 719468) % 146097 := by omega
  have hhigh : (days + 719468) % 146097 < 146097 := by omega
  have hbounds := dayOfYear_bounds hlow hhigh rfl
  simp only [Date.ofDays]
  generalize (days + 719468) % 146097 = dayOfEra at hbounds ⊢
  generalize (dayOfEra - dayOfEra / 1460 + dayOfEra / 36524 - dayOfEra / 146096) / 365 =
    yearOfEra at hbounds ⊢
  generalize dayOfEra - (365 * yearOfEra + yearOfEra / 4 - yearOfEra / 100) = dayOfYear
    at hbounds ⊢
  constructor
  · split <;> omega
  · omega

theorem date_bounds (t : Instant) :
    (1 ≤ t.date.month ∧ t.date.month ≤ 12) ∧ 1 ≤ t.date.day ∧ t.date.day ≤ 31 :=
  ofDays_bounds _

/-! ## Labels -/

open FeedReader.Text (IsPlainText isPlainText_append isPlainText_repr)

/-- The date of a time, with its year unless that is the current one. -/
def dateLabel (time now : Instant) : String :=
  let label := monthName time.date.month ++ " " ++ toString time.date.day
  if time.date.year = now.date.year then label else label ++ " " ++ yearText time.date.year

theorem tdiv_lt_one {seconds : Int} (h : seconds < 60) : seconds.tdiv 60 < 1 := by
  obtain hneg | hnonneg := Int.lt_or_le seconds 0
  · rw [← Int.neg_neg seconds, Int.neg_tdiv, Int.tdiv_eq_ediv_of_nonneg (by omega)]
    omega
  · rw [Int.tdiv_eq_ediv_of_nonneg hnonneg]
    omega

theorem ageLabel_eq (time now : Instant) :
    ageLabel time now =
      let seconds := now.secondsSince time
      if seconds < 60 then "now"
      else if seconds < 3600 then toString (seconds / 60) ++ "m"
      else if seconds < 86400 then toString (seconds / 3600) ++ "h"
      else if seconds < 604800 then toString (seconds / 86400) ++ "d"
      else dateLabel time now := by
  rw [ageLabel]
  generalize now.secondsSince time = seconds
  dsimp only
  by_cases hnow : seconds < 60
  · rw [if_pos (tdiv_lt_one hnow), if_pos hnow]
  · have hnonneg : 0 ≤ seconds := by omega
    have hminute : ¬seconds / 60 < 1 := by omega
    have hminutes : seconds / 60 < 60 ↔ seconds < 3600 := by omega
    have hhours : seconds / 3600 < 24 ↔ seconds < 86400 := by omega
    have hdays : seconds / 86400 < 7 ↔ seconds < 604800 := by omega
    simp only [Int.tdiv_eq_ediv_of_nonneg hnonneg, hminute, hnow, hminutes, hhours, hdays,
      if_false]
    rfl

/-- A text of at most so many characters, each of one column. -/
def IsShort (most : Nat) (label : String) : Prop := IsPlainText label ∧ label.length ≤ most

instance (most : Nat) (label : String) : Decidable (IsShort most label) :=
  inferInstanceAs (Decidable (_ ∧ _))

theorem IsShort.append {m n : Nat} {s t : String} (hs : IsShort m s) (ht : IsShort n t) :
    IsShort (m + n) (s ++ t) := by
  refine ⟨isPlainText_append.mpr ⟨hs.1, ht.1⟩, ?_⟩
  rw [String.length_append]
  exact Nat.add_le_add hs.2 ht.2

theorem IsShort.mono {m n : Nat} {s : String} (h : IsShort m s) (hle : m ≤ n) : IsShort n s :=
  ⟨h.1, Nat.le_trans h.2 hle⟩

theorem isShort_repr {n : Nat} (h : n < 100) : IsShort 2 n.repr :=
  ⟨isPlainText_repr n, (Nat.length_repr_le_iff (by decide)).mpr h⟩

theorem isShort_toString {n : Int} (hlow : 0 ≤ n) (hhigh : n < 100) : IsShort 2 (toString n) := by
  lift n to Nat using hlow
  exact isShort_repr (by omega)

theorem isShort_ageLabel {time now : Instant} (h : now.secondsSince time < 604800) :
    IsShort 3 (ageLabel time now) := by
  rw [ageLabel_eq]
  generalize now.secondsSince time = seconds at h ⊢
  dsimp only
  have hm : IsShort 1 "m" := by decide
  have hh : IsShort 1 "h" := by decide
  have hd : IsShort 1 "d" := by decide
  split_ifs
  · decide
  · exact (isShort_toString (by omega) (by omega)).append hm
  · exact (isShort_toString (by omega) (by omega)).append hh
  · exact (isShort_toString (by omega) (by omega)).append hd

theorem ageLabel_of_old {time now : Instant} (h : 604800 ≤ now.secondsSince time) :
    ageLabel time now = dateLabel time now := by
  rw [ageLabel_eq]
  dsimp only
  rw [if_neg (by omega), if_neg (by omega), if_neg (by omega), if_neg (by omega)]

theorem isShort_monthName {month : Nat} (hlow : 1 ≤ month) (hhigh : month ≤ 12) :
    IsShort 3 (monthName month) ∧ (monthName month).length = 3 := by
  interval_cases month <;> decide

theorem isShort_dateLabel {time now : Instant} (h : time.date.year = now.date.year) :
    IsShort 6 (dateLabel time now) := by
  obtain ⟨⟨hmonth, hmonth'⟩, -, hday⟩ := date_bounds time
  have hspace : IsShort 1 " " := by decide
  rw [dateLabel, if_pos h]
  exact ((isShort_monthName hmonth hmonth').1.append hspace).append (isShort_repr (by omega))

structure EndsInDigit (least : Nat) (label : String) : Prop where
  plain : IsPlainText label
  least_le : least ≤ label.length
  last : ∃ c, label.toList.getLast? = some c ∧ c.isDigit = true

theorem endsInDigit_repr (n : Nat) : EndsInDigit 1 n.repr where
  plain := isPlainText_repr n
  least_le := Nat.length_repr_pos
  last := by
    rw [Nat.toList_repr]
    have hlast := List.getLast?_eq_some_getLast (@Nat.toDigits_ne_nil n 10)
    exact ⟨_, hlast, Nat.isDigit_of_mem_toDigits (by decide) (by decide)
      (List.mem_of_getLast? hlast)⟩

theorem EndsInDigit.append {least : Nat} {s t : String} (hs : IsPlainText s)
    (ht : EndsInDigit least t) : EndsInDigit (s.length + least) (s ++ t) where
  plain := isPlainText_append.mpr ⟨hs, ht.plain⟩
  least_le := by
    rw [String.length_append]
    exact Nat.add_le_add_left ht.least_le _
  last := by
    obtain ⟨c, hlast, hdigit⟩ := ht.last
    exact ⟨c, by rw [String.toList_append, List.getLast?_append, hlast, Option.some_or], hdigit⟩

theorem endsInDigit_padZeros (n : Nat) : EndsInDigit 4 (padZeros 4 n.repr) where
  plain := by
    refine isPlainText_append.mpr ⟨?_, isPlainText_repr n⟩
    intro c hc
    rw [String.toList_ofList] at hc
    rw [List.eq_of_mem_replicate hc]
    decide
  least_le := by
    rw [padZeros, String.length_append, String.length_ofList, List.length_replicate]
    omega
  last := by
    obtain ⟨c, hlast, hdigit⟩ := (endsInDigit_repr n).last
    exact ⟨c, by rw [padZeros, String.toList_append, List.getLast?_append, hlast, Option.some_or],
      hdigit⟩

theorem EndsInDigit.mono {least most : Nat} {s : String} (h : EndsInDigit most s)
    (hle : least ≤ most) : EndsInDigit least s :=
  { h with least_le := Nat.le_trans hle h.least_le }

theorem endsInDigit_yearText (year : Int) : EndsInDigit 4 (yearText year) := by
  have hdigits := endsInDigit_padZeros year.natAbs
  rw [yearText]
  split_ifs
  · exact (hdigits.append (s := "-") (by decide)).mono (by decide)
  · exact (hdigits.append (s := "+") (by decide)).mono (by decide)
  · exact hdigits

theorem endsInDigit_dateLabel {time now : Instant} (h : time.date.year ≠ now.date.year) :
    EndsInDigit 10 (dateLabel time now) := by
  obtain ⟨⟨hmonth, hmonth'⟩, -, -⟩ := date_bounds time
  obtain ⟨⟨hplain, -⟩, hlength⟩ := isShort_monthName hmonth hmonth'
  have hday := endsInDigit_repr time.date.day
  have hspace : IsPlainText " " := by decide
  rw [dateLabel, if_neg h]
  refine (EndsInDigit.append ?_ (endsInDigit_yearText _)).mono ?_
  · simp only [isPlainText_append, hplain, hspace, and_true, true_and]
    exact hday.plain
  · have hleast : 1 ≤ (toString time.date.day).length := hday.least_le
    simp only [String.length_append, hlength]
    have hone : " ".length = 1 := rfl
    omega

end Time

/-! ## The column -/

namespace Session

open FeedReader.Screen (Canvas Line Rect)
open FeedReader.Text (displayWidth displayWidth_of_isPlainText isPlainText_append IsPlainText)
open FeedReader.Time

theorem padRight_of_isShort {label : String} (h : IsShort 6 label) :
    displayWidth (padRight ageWidth label) = ageWidth ∧
      (padRight ageWidth label).toList.getLast? = some ' ' := by
  obtain ⟨hplain, hlength⟩ := h
  obtain ⟨gap, hgap⟩ : ∃ gap, ageWidth - label.length = gap + 1 :=
    ⟨ageWidth - label.length - 1, by rw [ageWidth]; omega⟩
  have hspaces : IsPlainText (String.ofList (List.replicate (gap + 1) ' ')) := by
    intro c hc
    rw [String.toList_ofList] at hc
    rw [List.eq_of_mem_replicate hc]
    decide
  rw [padRight, hgap]
  constructor
  · rw [displayWidth_of_isPlainText (isPlainText_append.mpr ⟨hplain, hspaces⟩),
      String.length_append, String.length_ofList, List.length_replicate]
    omega
  · rw [String.toList_append, String.toList_ofList, List.getLast?_append, List.getLast?_replicate]
    rfl

theorem padRight_of_endsInDigit {label : String} (h : EndsInDigit 10 label) :
    padRight ageWidth label = label := by
  have hnone : ageWidth - label.length = 0 := by
    have hleast := h.least_le
    rw [ageWidth]
    omega
  rw [padRight, hnone, List.replicate_zero, String.ofList_nil, String.append_empty]

theorem isShort_or_endsInDigit (time : Option Instant) (now : Instant) :
    (∀ t, time = some t → now.secondsSince t < 7 * 86400 ∨ t.date.year = now.date.year) ∧
        IsShort 6 ((time.map fun t => ageLabel t now).getD "") ∨
      (∃ t, time = some t ∧ ¬(now.secondsSince t < 7 * 86400 ∨ t.date.year = now.date.year)) ∧
        EndsInDigit 10 ((time.map fun t => ageLabel t now).getD "") := by
  cases time with
  | none =>
      have hempty : IsShort 6 "" := by decide
      exact .inl ⟨fun t ht => absurd ht (by simp), hempty⟩
  | some t =>
      by_cases hrecent : now.secondsSince t < 7 * 86400
      · refine .inl ⟨fun t' ht => ?_, (isShort_ageLabel hrecent).mono (by decide)⟩
        cases ht
        exact .inl hrecent
      · have hdate : ageLabel t now = dateLabel t now := ageLabel_of_old (Int.not_lt.mp hrecent)
        rw [Option.map_some, Option.getD_some, hdate]
        by_cases hyear : t.date.year = now.date.year
        · refine .inl ⟨fun t' ht => ?_, isShort_dateLabel hyear⟩
          cases ht
          exact .inr hyear
        · exact .inr ⟨⟨t, rfl, not_or.mpr ⟨hrecent, hyear⟩⟩, endsInDigit_dateLabel hyear⟩

/--
The age column has its width and ends in a space exactly if the entry has no time, or one less than
a week ago or in the current year.  In any case what the row has to say starts right behind it.
-/
theorem age_column_iff (time : Option Instant) (now : Instant) :
    (displayWidth (ageSpan time now).text = ageWidth ∧
        (ageSpan time now).text.toList.getLast? = some ' ' ↔
      ∀ t, time = some t → now.secondsSince t < 7 * 86400 ∨ t.date.year = now.date.year) ∧
    ∀ (r : Rect) (row : Line) (c : Canvas), r.isEmpty = false →
      Canvas.drawLine r (ageSpan time now :: row) c =
        Canvas.drawLine (r.indent (displayWidth (ageSpan time now).text)) row
          (c.drawSpan r (ageSpan time now)) := by
  have htext : (ageSpan time now).text =
      padRight ageWidth ((time.map fun t => ageLabel t now).getD "") := rfl
  have hdraws : displayWidth (ageSpan time now).text ≠ 0 →
      ∀ (r : Rect) (row : Line) (c : Canvas), r.isEmpty = false →
        Canvas.drawLine r (ageSpan time now :: row) c =
          Canvas.drawLine (r.indent (displayWidth (ageSpan time now).text)) row
            (c.drawSpan r (ageSpan time now)) := by
    intro hwidth r row c hr
    rw [Canvas.drawLine, if_neg hwidth, hr]
    rfl
  rcases isShort_or_endsInDigit time now with ⟨hfits, hshort⟩ | ⟨⟨t, ht, hlong⟩, hdigit⟩
  · have hcolumn := padRight_of_isShort hshort
    rw [← htext] at hcolumn
    exact ⟨iff_of_true hcolumn hfits, hdraws (by rw [hcolumn.1]; decide)⟩
  · rw [padRight_of_endsInDigit hdigit] at htext
    have hwide : 10 ≤ displayWidth (ageSpan time now).text := by
      rw [htext, displayWidth_of_isPlainText hdigit.plain]
      exact hdigit.least_le
    refine ⟨iff_of_false ?_ fun hfits => hlong (hfits t ht), hdraws (by omega)⟩
    rintro ⟨hwidth, -⟩
    rw [hwidth] at hwide
    exact absurd hwide (by decide)

/-- The first of March of this year and that of 2021: the second row starts three columns later. -/
theorem age_column_of_other_year :
    let now : Instant := ⟨1716206400, 0⟩
    (ageSpan (some ⟨1709287200, 0⟩) now).text = "Mar 1  " ∧
      (ageSpan (some ⟨1614592800, 0⟩) now).text = "Mar 1 2021" ∧
      displayWidth (ageSpan (some ⟨1614592800, 0⟩) now).text = 10 ∧
      ¬∀ time now, displayWidth (ageSpan time now).text = ageWidth ∧
        (ageSpan time now).text.toList.getLast? = some ' ' := by
  intro now
  have hwide : displayWidth (ageSpan (some ⟨1614592800, 0⟩) now).text = 10 := by decide
  refine ⟨by decide, by decide, hwide, fun hall => ?_⟩
  have hwidth := (hall (some ⟨1614592800, 0⟩) now).1
  rw [hwide] at hwidth
  exact absurd hwidth (by decide)

end Session

end FeedReader
