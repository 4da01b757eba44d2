import FeedReader.Text.Width
import Mathlib.Tactic.SplitIfs

/-!
# Columns of a text and of its characters

A text is measured as a whole, its characters one by one, and the two need not agree: where
characters melt into one another a text is narrower than its characters are together.  It is
wider only where a character gains columns.  There are two kinds of these: control characters,
which have a column in a text and none of their own, and narrow signs that a style selector
turns into a picture.
-/

namespace FeedReader.Text

/-! ## Tables -/

theorem mem_of_searchRange {α : Type} {bounds : α → Nat × Nat} {table : Array α}
    {point fuel lo hi : Nat} {entry : α}
    (h : searchRange bounds table point fuel lo hi = some entry) :
    entry ∈ table ∧ (bounds entry).1 ≤ point ∧ point ≤ (bounds entry).2 := by
  fun_induction searchRange bounds table point fuel lo hi with
  | case1 => cases h
  | case2 => cases h
  | case3 => cases h
  | case4 _ _ _ _ _ _ _ _ ih => exact ih h
  | case5 _ _ _ _ _ _ _ _ _ ih => exact ih h
  | case6 _ _ _ _ _ found hfound hlow hhigh =>
      cases h
      exact ⟨Array.mem_of_getElem? hfound, Nat.le_of_not_lt hlow, Nat.le_of_not_lt hhigh⟩

theorem exists_range_of_has {table : RangeTable} {c : Char} (h : table.has c) :
    ∃ range ∈ table, range.1 ≤ c.toNat ∧ c.toNat ≤ range.2 := by
  obtain ⟨range, hrange⟩ := Option.isSome_iff_exists.mp h
  obtain ⟨hmem, hlow, hhigh⟩ := mem_of_searchRange hrange
  exact ⟨range, hmem, hlow, hhigh⟩

def noneZeroWidth (first last : Nat) : Bool :=
  (List.range' first (last + 1 - first)).all fun point =>
    (searchRange id zeroWidth point zeroWidth.size 0 zeroWidth.size).isNone

theorem tableColumns_pos_of_noneZeroWidth {first last : Nat} (h : noneZeroWidth first last)
    {c : Char} (hc : first ≤ c.toNat ∧ c.toNat ≤ last) : 1 ≤ tableColumns c := by
  have hnone := List.all_eq_true.mp h c.toNat (List.mem_range'_1.mpr (by omega))
  have hzero : zeroWidth.has c = false := by
    rw [RangeTable.has, findRange, Option.isNone_iff_eq_none.mp hnone]
    rfl
  rw [tableColumns, hzero]
  split
  · decide
  · simp only [Bool.false_eq_true, if_false]
    split <;> decide

theorem tableColumns_pos_of_styleBase {c : Char} (h : emojiStyleBase.has c) :
    1 ≤ tableColumns c := by
  have hall : emojiStyleBase.toList.all fun range => noneZeroWidth range.1 range.2 := by
    decide +kernel
  obtain ⟨range, hmem, hrange⟩ := exists_range_of_has h
  exact tableColumns_pos_of_noneZeroWidth
    (List.all_eq_true.mp hall range (Array.mem_toList_iff.mpr hmem)) hrange

theorem tableColumns_pos_of_isFlagHalf {c : Char} (h : isFlagHalf c) : 1 ≤ tableColumns c := by
  have hall : noneZeroWidth 0x1f1e6 0x1f1ff := by decide +kernel
  apply tableColumns_pos_of_noneZeroWidth hall
  simpa [isFlagHalf, within] using h

/-! ## One character -/

def pictureSelector : Char := '\ufe0f'

/-- The columns that `c` has in front of `rest` beyond its own. -/
def gain (c : Char) (rest : List Char) : Nat :=
  if rest.head? = some pictureSelector && emojiStyleBase.has c then 2 - columns c
  else if isControl c then 1
  else 0

def Shape.reserve : Shape → Int
  | .joinedFlagEven => 2
  | _ => 0

theorem reserve_nonneg (shape : Shape) : 0 ≤ shape.reserve := by
  unfold Shape.reserve
  split <;> decide

theorem reserve_shapeOf (c : Char) : (shapeOf c).reserve = 0 := by
  have hletter : ((letterOf? c).getD .plain).reserve = 0 := by
    rw [letterOf?]
    split_ifs <;> rfl
  rw [shapeOf]
  split_ifs
  · rfl
  · rfl
  · rfl
  · exact hletter

theorem reserve_dropPictured_le (a : Ahead) : a.dropPictured.shape.reserve ≤ a.shape.reserve := by
  rw [Ahead.dropPictured]
  split_ifs
  · exact Int.le_refl _
  · exact Int.le_refl _
  · exact reserve_nonneg a.shape

theorem reserve_dropLettered_le (a : Ahead) : a.dropLettered.shape.reserve ≤ a.shape.reserve := by
  rw [Ahead.dropLettered]
  split_ifs
  · exact Int.le_refl _
  · exact Int.le_refl _
  · exact reserve_nonneg a.shape

theorem reserve_picture_le (a : Ahead) : a.picture.shape.reserve ≤ a.shape.reserve := by
  rw [Ahead.picture]
  split_ifs
  · exact Int.le_refl _
  · exact reserve_nonneg a.shape

theorem reserve_lettering_le (a : Ahead) : a.lettering.shape.reserve ≤ a.shape.reserve := by
  rw [Ahead.lettering]
  split_ifs
  · exact Int.le_refl _
  · exact reserve_nonneg a.shape

theorem meltLetter?_le {shape next : Shape} {c : Char} {n : Int}
    (h : meltLetter? shape c = some (n, next)) : n + next.reserve ≤ tableColumns c := by
  have hown : (0 : Int) ≤ tableColumns c := Int.natCast_nonneg _
  have hjoiner : c.toNat = 0x2d7f → (1 : Int) ≤ tableColumns c := by
    intro hc
    have hpos : 1 ≤ tableColumns c :=
      @tableColumns_pos_of_noneZeroWidth 0x2d7f 0x2d7f (by decide +kernel) c (by omega)
    exact_mod_cast hpos
  fun_cases meltLetter? shape c <;> grind [meltLetter?, Shape.reserve]

theorem meltPicture?_le {shape next : Shape} {c : Char} {n : Int}
    (h : meltPicture? shape c = some (n, next)) :
    n + next.reserve ≤ tableColumns c + shape.reserve := by
  have hown : (0 : Int) ≤ tableColumns c := Int.natCast_nonneg _
  have hflag : isFlagHalf c → (1 : Int) ≤ tableColumns c := by
    intro hc
    exact_mod_cast tableColumns_pos_of_isFlagHalf hc
  fun_cases meltPicture? shape c <;> grind [meltPicture?, Shape.reserve]

theorem columns_eq_tableColumns {c : Char} (h : ¬c.toNat ≤ 0xa0) : columns c = tableColumns c := by
  have hcontrol : isControl c = false := by
    simp [isControl, within]
    omega
  rw [columns, hcontrol, if_neg h]
  rfl

theorem one_le_columns_add_gain {c : Char} (h : c.toNat ≤ 0xa0) (rest : List Char) :
    1 ≤ columns c + gain c rest := by
  have hcolumns : columns c = if isControl c then 0 else 1 := by rw [columns, if_pos h]
  rw [gain, hcolumns]
  split_ifs <;> omega

theorem two_le_columns_add_gain {c : Char} {rest : List Char}
    (hnext : rest.head? = some pictureSelector) (hbase : emojiStyleBase.has c) :
    2 ≤ columns c + gain c rest := by
  rw [gain, hnext, hbase]
  simp only [decide_true, Bool.and_self, if_true]
  omega

theorem melt_le {shape next : Shape} {c : Char} {n : Int}
    (h : (meltLetter? shape c).or (meltPicture? shape c) = some (n, next)) :
    n + next.reserve ≤ tableColumns c + shape.reserve := by
  rcases Option.or_eq_some_iff.mp h with hletter | ⟨-, hpicture⟩
  · have hmelt := meltLetter?_le hletter
    have hreserve := reserve_nonneg shape
    omega
  · exact meltPicture?_le hpicture

theorem measure_le {c : Char} {rest : List Char} {ahead : Ahead}
    (hnext : ahead.pictured → rest.head? = some pictureSelector) :
    (measure c ahead).1 + (measure c ahead).2.shape.reserve ≤
      (columns c + gain c rest : Nat) + ahead.shape.reserve := by
  have hreserve := reserve_nonneg ahead.shape
  have hpictured := reserve_dropPictured_le ahead
  have hlettered := reserve_dropLettered_le ahead.dropPictured
  have hlow : c.toNat ≤ 0xa0 → 1 ≤ columns c + gain c rest :=
    fun h => one_le_columns_add_gain h rest
  have hhigh : ¬c.toNat ≤ 0xa0 → tableColumns c ≤ columns c + gain c rest := by
    intro h
    rw [columns_eq_tableColumns h]
    exact Nat.le_add_right _ _
  have hplain : Shape.plain.reserve = 0 := rfl
  fun_cases measure c ahead with
  | case1 hpicture =>
      rw [Bool.and_eq_true] at hpicture
      have htwo := two_le_columns_add_gain (hnext hpicture.1) hpicture.2
      have hshape : Shape.picture.reserve = 0 := rfl
      dsimp only
      split <;> omega
  | case2 _ hc =>
      have hone := hlow hc
      have hshape : Shape.lineFeed.reserve = 0 := rfl
      dsimp only
      omega
  | case3 _ _ hc | case4 _ _ hc =>
      have hone := hlow hc
      dsimp only
      omega
  | case5 _ unpictured =>
      have hstyle : unpictured.picture.shape.reserve ≤ ahead.shape.reserve :=
        Int.le_trans (reserve_picture_le _) hpictured
      dsimp only
      omega
  | case6 _ unpictured =>
      have hstyle : unpictured.lettering.shape.reserve ≤ ahead.shape.reserve :=
        Int.le_trans (reserve_lettering_le _) hpictured
      dsimp only
      omega
  | case7 _ _ hc _ _ htext =>
      have hown := hhigh hc
      simp only [isTextStyleBase, Bool.and_eq_true] at htext
      have hpos := tableColumns_pos_of_styleBase htext.2.1.1
      dsimp only
      omega
  | case8 _ _ _ _ _ _ _ l | case9 _ _ _ _ _ _ _ l =>
      have hshape : ∀ joined, (Shape.letter l joined).reserve = 0 := fun _ => rfl
      dsimp only
      rw [hshape]
      omega
  | case10 _ _ hc _ _ _ _ _ _ _ _ _ n next hmelt =>
      have hown := hhigh hc
      have hmelted := meltLetter?_le hmelt
      dsimp only
      omega
  | case11 _ _ hc | case13 _ _ hc =>
      have hown := hhigh hc
      have hshape := reserve_shapeOf c
      dsimp only
      omega
  | case12 _ _ hc _ _ _ shape n next _ hmelt =>
      have hown := hhigh hc
      have hmelted : n + next.reserve ≤
          tableColumns c + ahead.dropPictured.dropLettered.shape.reserve := melt_le hmelt
      dsimp only
      omega

/-! ## The character after it -/

theorem pictured_dropPictured (a : Ahead) : a.dropPictured.pictured = false := by
  rw [Ahead.dropPictured]
  split
  · next h => simpa using h
  · split <;> rfl

theorem pictured_lettering {a : Ahead} (h : a.lettering.pictured) : a.pictured := by
  rw [Ahead.lettering] at h
  split at h
  · exact h
  · cases h

theorem eq_of_pictured_measure {c : Char} {ahead : Ahead}
    (h : (measure c ahead).2.pictured) : c = pictureSelector := by
  revert h
  fun_cases measure c ahead with
  | case5 _ _ _ hc =>
      intro _
      exact Char.ext (UInt32.toNat_inj.mp hc)
  | case6 =>
      intro h
      have hpictured := pictured_lettering h
      rw [pictured_dropPictured] at hpictured
      cases hpictured
  | _ =>
      intro h
      cases h

/-! ## Texts -/

def measured (s : List Char) : Int × Ahead :=
  s.foldr (fun c (sum, ahead) =>
    let (n, ahead) := measure c ahead
    (sum + n, ahead)) ((0 : Int), ({} : Ahead))

theorem width_eq (s : List Char) : width s = (measured s).1.toNat := rfl

theorem measured_cons (c : Char) (rest : List Char) :
    measured (c :: rest) =
      ((measured rest).1 + (measure c (measured rest).2).1, (measure c (measured rest).2).2) :=
  rfl

theorem head?_of_pictured {s : List Char} (h : (measured s).2.pictured) :
    s.head? = some pictureSelector := by
  cases s with
  | nil => cases h
  | cons c rest =>
      rw [measured_cons] at h
      rw [List.head?_cons, eq_of_pictured_measure h]

/-- The columns of the characters of a text, each by itself. -/
def columnSum : List Char → Nat
  | [] => 0
  | c :: rest => columns c + columnSum rest

def gains : List Char → Nat
  | [] => 0
  | c :: rest => gain c rest + gains rest

theorem measured_le (s : List Char) :
    (measured s).1 + (measured s).2.shape.reserve ≤ (columnSum s + gains s : Nat) := by
  induction s with
  | nil => exact Int.le_refl _
  | cons c rest ih =>
      have hstep := @measure_le c rest (measured rest).2 head?_of_pictured
      rw [measured_cons, columnSum, gains]
      dsimp only
      omega

theorem width_le (s : List Char) : width s ≤ columnSum s + gains s := by
  have hmeasured := measured_le s
  have hreserve := reserve_nonneg (measured s).2.shape
  rw [width_eq]
  omega

theorem gain_nil_le (c : Char) (rest : List Char) : gain c [] ≤ gain c rest := by
  have hcontrol : isControl c → columns c = 0 := fun h => if_pos h
  have hnil : gain c [] = if isControl c then 1 else 0 := rfl
  rw [hnil, gain]
  split_ifs with h
  · rw [hcontrol h]
    decide
  · exact Nat.le_refl 1
  · exact Nat.zero_le _
  · exact Nat.le_refl 0

theorem gains_le_append (front rest : List Char) : gains front ≤ gains (front ++ rest) := by
  induction front with
  | nil => exact Nat.zero_le _
  | cons c front ih =>
      have hfirst : gain c front ≤ gain c (front ++ rest) := by
        cases front with
        | nil => exact gain_nil_le c rest
        | cons next front => exact Nat.le_refl _
      exact Nat.add_le_add hfirst ih

/-! ## Plain texts -/

/-- Letters, digits, marks and spaces that take one column wherever they stand. -/
def isPlain (c : Char) : Bool := within 0x20 0x7e c

def IsPlainText (s : String) : Prop := ∀ c ∈ s.toList, isPlain c = true

instance (s : String) : Decidable (IsPlainText s) := List.decidableBAll _ _

@[simp] theorem isPlainText_append {s t : String} :
    IsPlainText (s ++ t) ↔ IsPlainText s ∧ IsPlainText t := by
  rw [IsPlainText, String.toList_append, List.forall_mem_append]
  rfl

theorem isPlainText_repr (n : Nat) : IsPlainText n.repr := by
  intro c hc
  rw [Nat.toList_repr] at hc
  have hdigit := Nat.isDigit_of_mem_toDigits (by decide) (by decide) hc
  obtain ⟨hlow, hhigh⟩ : 48 ≤ c.toNat ∧ c.toNat ≤ 57 := Char.isDigit_iff_toNat.mp hdigit
  simp [isPlain, within]
  omega

theorem measure_of_isPlain {c : Char} (h : isPlain c) : measure c {} = (1, {}) := by
  have hrange : 0x20 ≤ c.toNat ∧ c.toNat ≤ 0x7e := by simpa [isPlain, within] using h
  have hlineFeed : c ≠ '\n' := by
    rintro rfl
    exact absurd hrange (by decide)
  have hplain : ({} : Ahead).dropPictured ≠ { shape := .lineFeed } := by decide
  rw [measure, if_neg (by simp), if_pos (by omega), if_neg hlineFeed, if_neg (by simp [hplain])]

theorem measured_of_isPlain {s : List Char} (h : ∀ c ∈ s, isPlain c) :
    measured s = ((s.length : Int), ({} : Ahead)) := by
  induction s with
  | nil => rfl
  | cons c rest ih =>
      obtain ⟨hfirst, hrest⟩ := List.forall_mem_cons.mp h
      rw [measured_cons, ih hrest, measure_of_isPlain hfirst]
      simp

theorem displayWidth_of_isPlainText {s : String} (h : IsPlainText s) :
    displayWidth s = s.length := by
  rw [displayWidth, width_eq, measured_of_isPlain h, Int.toNat_natCast, String.length_toList]

end FeedReader.Text
