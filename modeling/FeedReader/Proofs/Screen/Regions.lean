import FeedReader.Screen.Canvas
import Mathlib.Tactic.SplitIfs

/-!
# What drawing leaves alone

Whatever is drawn is drawn into a region, and all other cells stay as they are.  A text stays in its
line, a box is its border, and a paragraph keeps to the lines of its rectangle.  What is cleared is
blank afterwards.
-/

namespace FeedReader.Screen

/-! ## Regions -/

def Rect.Holds (r : Rect) (x y : Nat) : Prop :=
  r.x ≤ x ∧ x < r.x + r.width ∧ r.y ≤ y ∧ y < r.y + r.height

def Rect.Lines (r : Rect) (_ y : Nat) : Prop := r.y ≤ y ∧ y < r.y + r.height

def Rect.Border (r : Rect) (x y : Nat) : Prop :=
  x = r.x ∨ x = r.x + r.width - 1 ∨ y = r.y ∨ y = r.y + r.height - 1

def OnLine (line : Nat) (_ y : Nat) : Prop := y = line

theorem Rect.holds_run_iff {x y count x' y' : Nat} :
    Rect.Holds ⟨x, y, count, 1⟩ x' y' ↔ x ≤ x' ∧ x' < x + count ∧ y' = y := by
  simp only [Rect.Holds]
  omega

namespace Canvas

variable {region more : Nat → Nat → Prop} {c c' c'' : Canvas}

structure ChangesOnly (region : Nat → Nat → Prop) (c c' : Canvas) : Prop where
  width_eq : c'.width = c.width
  height_eq : c'.height = c.height
  cell_eq : ∀ x y, x < c.width → ¬region x y → c'.cell x y = c.cell x y

theorem ChangesOnly.refl (c : Canvas) : ChangesOnly region c c :=
  ⟨rfl, rfl, fun _ _ _ _ => rfl⟩

theorem ChangesOnly.trans (h : ChangesOnly region c c') (h' : ChangesOnly region c' c'') :
    ChangesOnly region c c'' where
  width_eq := h'.width_eq.trans h.width_eq
  height_eq := h'.height_eq.trans h.height_eq
  cell_eq := fun x y hx hout =>
    (h'.cell_eq x y (h.width_eq ▸ hx) hout).trans (h.cell_eq x y hx hout)

theorem ChangesOnly.mono (h : ChangesOnly region c c') (hsub : ∀ x y, region x y → more x y) :
    ChangesOnly more c c' :=
  { h with cell_eq := fun x y hx hout => h.cell_eq x y hx (mt (hsub x y) hout) }

theorem changesOnly_foldl {β : Type} {f : Canvas → β → Canvas} {items : List β}
    (h : ∀ item ∈ items, ∀ c, ChangesOnly region c (f c item)) (c : Canvas) :
    ChangesOnly region c (items.foldl f c) := by
  induction items generalizing c with
  | nil => exact .refl c
  | cons item items ih =>
      obtain ⟨hfirst, hrest⟩ := List.forall_mem_cons.mp h
      exact (hfirst c).trans (ih hrest (f c item))

theorem ChangesOnly.row_eq (h : ChangesOnly region c c') {y : Nat} (hout : ∀ x, ¬region x y) :
    c'.row y = c.row y := by
  rw [row, row, h.width_eq]
  apply List.map_congr_left
  intro x hx
  exact h.cell_eq x y (List.mem_range.mp hx) (hout x)

/-! ## Cells -/

theorem index_inj {width x y x' y' : Nat} (hx : x < width) (hx' : x' < width)
    (h : y * width + x = y' * width + x') : x = x' ∧ y = y' := by
  have hcolumn := congrArg (· % width) h
  have hline := congrArg (· / width) h
  simp only [Nat.mul_add_mod_self_right, Nat.mod_eq_of_lt hx, Nat.mod_eq_of_lt hx'] at hcolumn
  have hpos : 0 < width := Nat.lt_of_le_of_lt (Nat.zero_le x) hx
  simp only [Nat.mul_comm _ width, Nat.mul_add_div hpos, Nat.div_eq_of_lt hx,
    Nat.div_eq_of_lt hx', Nat.add_zero] at hline
  exact ⟨hcolumn, hline⟩

theorem changesOnly_alter (c : Canvas) (x y : Nat) (f : Cell → Cell) :
    ChangesOnly (fun x' y' => x' = x ∧ y' = y) c (c.alter x y f) := by
  rw [alter]
  split_ifs with hx
  · refine ⟨rfl, rfl, fun x' y' hx' hout => ?_⟩
    have hne : y * c.width + x ≠ y' * c.width + x' := by
      intro h
      obtain ⟨rfl, rfl⟩ := index_inj hx hx' h
      exact hout ⟨rfl, rfl⟩
    simp only [cell, Array.getD_eq_getD_getElem?, Array.getElem?_modify, if_neg hne]
  · exact .refl c

/-! ## Rectangles -/

theorem changesOnly_alterRun (c : Canvas) (x y count : Nat) (f : Cell → Cell) :
    ChangesOnly (Rect.Holds ⟨x, y, count, 1⟩) c (c.alterRun x y count f) := by
  apply changesOnly_foldl
  intro i hi c
  have hi' : i < count := List.mem_range.mp hi
  apply (changesOnly_alter c (x + i) y f).mono
  rintro x' y' ⟨rfl, rfl⟩
  exact Rect.holds_run_iff.mpr ⟨by omega, by omega, rfl⟩

theorem changesOnly_alterAll (c : Canvas) (r : Rect) (f : Cell → Cell) :
    ChangesOnly r.Holds c (c.alterAll r f) := by
  apply changesOnly_foldl
  intro i hi c
  have hi' : i < r.height := List.mem_range.mp hi
  apply (changesOnly_alterRun c r.x (r.y + i) r.width f).mono
  intro x y hrun
  obtain ⟨hleft, hright, rfl⟩ := Rect.holds_run_iff.mp hrun
  exact ⟨hleft, hright, by omega, by omega⟩

theorem changesOnly_paint (c : Canvas) (r : Rect) (s : Style) :
    ChangesOnly r.Lines c (c.paint r s) :=
  (changesOnly_alterAll c r _).mono fun _ _ h => h.2.2

/-! ## Blank cells -/

theorem cell_foldl_blank {β : Type} {f : Canvas → β → Canvas} {items : List β} {x y : Nat}
    (hsize : ∀ c item, (f c item).width = c.width)
    (hkeep : ∀ c item, x < c.width → c.cell x y = {} → (f c item).cell x y = {})
    (hx : x < c.width)
    (h : c.cell x y = {} ∨ ∃ item ∈ items, ∀ c, x < c.width → (f c item).cell x y = {}) :
    (items.foldl f c).cell x y = {} := by
  induction items generalizing c with
  | nil => exact h.resolve_right (by simp)
  | cons item items ih =>
      apply ih ((hsize c item).symm ▸ hx)
      obtain hblank | ⟨later, hmem, hset⟩ := h
      · exact .inl (hkeep c item hx hblank)
      · obtain rfl | hrest := List.mem_cons.mp hmem
        · exact .inl (hset c hx)
        · exact .inr ⟨later, hrest, hset⟩

theorem cell_alter_blank {x y x' y' : Nat} (hx : x < c.width)
    (h : c.cell x y = {} ∨ x = x' ∧ y = y') : (c.alter x' y' fun _ => {}).cell x y = {} := by
  by_cases hsame : x = x' ∧ y = y'
  · obtain ⟨rfl, rfl⟩ := hsame
    rw [alter, if_pos hx]
    simp only [cell, Array.getD_eq_getD_getElem?, Array.getElem?_modify, if_pos]
    cases c.cells[y * c.width + x]? <;> rfl
  · rw [(changesOnly_alter c x' y' _).cell_eq x y hx hsame]
    exact h.resolve_right hsame

theorem cell_alterRun_blank {x y start line count : Nat} (hx : x < c.width)
    (h : c.cell x y = {} ∨ Rect.Holds ⟨start, line, count, 1⟩ x y) :
    (c.alterRun start line count fun _ => {}).cell x y = {} := by
  refine cell_foldl_blank (fun c i => (changesOnly_alter c (start + i) line _).width_eq)
    (fun c i hx hblank => cell_alter_blank hx (.inl hblank)) hx (h.imp_right ?_)
  intro hrun
  obtain ⟨hleft, hright, rfl⟩ := Rect.holds_run_iff.mp hrun
  refine ⟨x - start, List.mem_range.mpr (by omega), fun c hx => ?_⟩
  exact cell_alter_blank hx (.inr ⟨by omega, rfl⟩)

def IsBlank (c : Canvas) (r : Rect) : Prop := ∀ x y, r.Holds x y → c.cell x y = {}

theorem IsBlank.of_changesOnly {r : Rect} (h : c.IsBlank r) (hright : r.x + r.width ≤ c.width)
    (hchanges : ChangesOnly region c c') (hout : ∀ x y, r.Holds x y → ¬region x y) :
    c'.IsBlank r := by
  intro x y hin
  rw [hchanges.cell_eq x y (Nat.lt_of_lt_of_le hin.2.1 hright) (hout x y hin)]
  exact h x y hin

theorem isBlank_clear {r : Rect} (hright : r.x + r.width ≤ c.width) : (c.clear r).IsBlank r := by
  intro x y h
  have hx : x < c.width := Nat.lt_of_lt_of_le h.2.1 hright
  refine cell_foldl_blank (fun c i => (changesOnly_alterRun c r.x (r.y + i) r.width _).width_eq)
    (fun c i hx hblank => cell_alterRun_blank hx (.inl hblank)) hx (.inr ?_)
  obtain ⟨hleft, hright, htop, hbottom⟩ := h
  refine ⟨y - r.y, List.mem_range.mpr (by omega), fun c hx => ?_⟩
  exact cell_alterRun_blank hx (.inr (Rect.holds_run_iff.mpr ⟨hleft, hright, by omega⟩))

/-! ## Texts -/

theorem changesOnly_put (c : Canvas) (x line : Nat) (symbol : String) (s : Style) :
    ChangesOnly (OnLine line) c (c.put x line symbol s) :=
  (changesOnly_alter c x line _).mono fun _ _ h => h.2

theorem changesOnly_append (c : Canvas) (x line : Nat) (symbol : String) (s : Style) :
    ChangesOnly (OnLine line) c (c.append x line symbol s) :=
  (changesOnly_alter c x line _).mono fun _ _ h => h.2

theorem changesOnly_drawClusters {line start right : Nat} {s : Style} (symbols : List String)
    (first : Bool) (x : Nat) (c : Canvas) :
    ChangesOnly (OnLine line) c (drawClusters line start right s first x symbols c) := by
  induction symbols generalizing first x c with
  | nil => exact .refl c
  | cons symbol symbols ih =>
      have hblanks : ∀ (c : Canvas) x count,
          ChangesOnly (OnLine line) c (c.alterRun x line count fun _ => {}) := fun c x count =>
        (changesOnly_alterRun c x line count _).mono fun _ _ h => (Rect.holds_run_iff.mp h).2.2
      rw [drawClusters]
      split
      · exact .refl c
      · refine .trans (.trans ?_ (hblanks _ _ _)) (ih _ _ _)
        split_ifs
        · exact changesOnly_put c x line symbol s
        · exact changesOnly_append c x line symbol s
        · exact changesOnly_append c (x - 1) line symbol s
        · exact changesOnly_put c x line symbol s

theorem changesOnly_drawSpan (c : Canvas) (r : Rect) (span : Span) :
    ChangesOnly (OnLine r.y) c (c.drawSpan r span) :=
  changesOnly_drawClusters _ _ _ c

theorem changesOnly_drawLine (r : Rect) (line : Line) (c : Canvas) :
    ChangesOnly (OnLine r.y) c (drawLine r line c) := by
  induction line generalizing r c with
  | nil => exact .refl c
  | cons span line ih =>
      rw [drawLine]
      split_ifs
      · exact ih r c
      · exact .refl c
      · exact (changesOnly_drawSpan c r span).trans (ih (r.indent _) _)

theorem changesOnly_drawFitting (line x : Nat) (symbols : List (String × Style)) (c : Canvas) :
    ChangesOnly (OnLine line) c (drawFitting line x symbols c) := by
  induction symbols generalizing x c with
  | nil => exact .refl c
  | cons symbol symbols ih =>
      rw [drawFitting]
      split_ifs
      · exact ih _ c
      · exact (changesOnly_put c x line symbol.1 symbol.2).trans (ih _ _)

theorem changesOnly_drawParagraph (c : Canvas) (r : Rect) (alignment : LineAlignment)
    (base : Style) (lines : List Line) :
    ChangesOnly r.Lines c (c.drawParagraph r alignment base lines) := by
  refine (changesOnly_paint c r base).trans (changesOnly_foldl ?_ _)
  rintro ⟨line, i⟩ hline c
  have hi : i < (lines.take r.height).length := (List.mem_zipIdx' hline).1
  have hheight : i < r.height := Nat.lt_of_lt_of_le hi (List.length_take_le _ _)
  apply (changesOnly_drawFitting (r.y + i) _ _ c).mono
  rintro x y rfl
  exact ⟨by omega, by omega⟩

/-! ## Boxes -/

theorem changesOnly_drawRule (c : Canvas) (line left right : Nat) (ends : String × String)
    (s : Style) : ChangesOnly (OnLine line) c (c.drawRule line left right ends s) := by
  rw [drawRule]
  refine ChangesOnly.trans ?_ (changesOnly_put _ right line ends.2 s)
  refine ChangesOnly.trans ?_ (changesOnly_put _ left line ends.1 s)
  exact changesOnly_foldl (fun i _ c => changesOnly_put c (left + i) line "─" s) c

theorem changesOnly_drawBox (c : Canvas) (r : Rect) (s : Style) (title : Line) :
    ChangesOnly r.Border c (c.drawBox r s title) := by
  have htop : ∀ {c c'}, ChangesOnly (OnLine r.y) c c' → ChangesOnly r.Border c c' :=
    fun h => h.mono fun _ _ hline => .inr (.inr (.inl hline))
  have hbottom : ∀ {c c'}, ChangesOnly (OnLine (r.y + r.height - 1)) c c' →
      ChangesOnly r.Border c c' :=
    fun h => h.mono fun _ _ hline => .inr (.inr (.inr hline))
  have hleft : ∀ c y, ChangesOnly r.Border c (c.put r.x y "│" s) := fun c y =>
    (changesOnly_alter c r.x y _).mono fun _ _ h => .inl h.1
  have hright : ∀ c y, ChangesOnly r.Border c (c.put (r.x + r.width - 1) y "│" s) := fun c y =>
    (changesOnly_alter c (r.x + r.width - 1) y _).mono fun _ _ h => .inr (.inl h.1)
  rw [drawBox]
  split_ifs
  · exact .refl c
  refine ChangesOnly.trans ?_ (htop (changesOnly_drawLine ⟨r.x + 1, r.y, _, 1⟩ title _))
  refine ChangesOnly.trans ?_ (htop (changesOnly_drawRule _ _ _ _ _ s))
  refine ChangesOnly.trans ?_ (hbottom (changesOnly_drawRule _ _ _ _ _ s))
  exact changesOnly_foldl (fun i _ c => (hleft c _).trans (hright _ _)) c

end Canvas

end FeedReader.Screen
