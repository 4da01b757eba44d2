import FeedReader.Session.Frame
import FeedReader.Proofs.Keys.HelpScreen
import FeedReader.Proofs.Screen.Centering
import FeedReader.Proofs.Screen.Regions
import FeedReader.Proofs.Session.Runs

/-!
# The table of the help screen

The help screen has as many lines for rows as its height leaves after a border, a heading and the
empty line below that.  It scrolls as if there were one line more.  So where the rows do not fit,
the last one is never on show, however far one scrolls; all others can be brought into view.
-/

namespace FeedReader.Session

open FeedReader.Keys (Keymap)
open FeedReader.Loop (userSession)
open FeedReader.Screen

/-! ## Lines of the table -/

/-- What the lines of the table hold: the rows, each drawn into an empty line, and then nothing. -/
structure TableShows (c : Canvas) (overlay : Rect) (rows : List (String × String)) : Prop where
  fits : rows.length ≤ (helpRowsArea overlay).height
  drawn : ∀ i row, rows[i]? = some row → ∃ before : Canvas,
    before.IsBlank ((helpRowsArea overlay).row i) ∧
      c.row ((helpRowsArea overlay).y + i) =
        (drawPair ((helpRowsArea overlay).row i) ("  " ++ row.1) row.2 {} before).row
          ((helpRowsArea overlay).y + i)
  empty : ∀ i, rows.length ≤ i → i < (helpRowsArea overlay).height →
    c.IsBlank ((helpRowsArea overlay).row i)

theorem changesOnly_drawPair (r : Rect) (i : Nat) (left right : String) (s : Style) (c : Canvas) :
    Canvas.ChangesOnly (OnLine (r.y + i)) c (drawPair (r.row i) left right s c) := by
  rw [drawPair]
  refine Canvas.ChangesOnly.trans ?_ (Canvas.changesOnly_drawLine ((r.row i).indent _) _ _)
  refine Canvas.ChangesOnly.trans ?_
    (Canvas.changesOnly_drawLine { r.row i with width := min keyColumn (r.row i).width } _ _)
  apply (Canvas.changesOnly_paint c (r.row i) s).mono
  rintro x y ⟨htop, hbottom⟩
  exact Nat.le_antisymm (Nat.le_of_lt_succ hbottom) htop

def drawRowsFrom (area : Rect) (rows : List (String × String)) (c : Canvas) : Canvas :=
  rows.zipIdx.foldl (fun c (row, i) => drawPair (area.row i) ("  " ++ row.1) row.2 {} c) c

theorem drawRowsFrom_concat (area : Rect) (rows : List (String × String)) (row : String × String)
    (c : Canvas) :
    drawRowsFrom area (rows ++ [row]) c =
      drawPair (area.row rows.length) ("  " ++ row.1) row.2 {} (drawRowsFrom area rows c) := by
  rw [drawRowsFrom, List.zipIdx_append, List.foldl_append, ← drawRowsFrom]
  simp

theorem changesOnly_drawRowsFrom (area : Rect) (rows : List (String × String)) (c : Canvas) :
    Canvas.ChangesOnly (fun _ y => ∃ i < rows.length, y = area.y + i) c
      (drawRowsFrom area rows c) := by
  induction rows using List.reverseRecOn with
  | nil => exact .refl c
  | append_singleton rows row ih =>
      rw [drawRowsFrom_concat, List.length_append, List.length_singleton]
      refine (ih.mono ?_).trans ((changesOnly_drawPair area rows.length _ _ _ _).mono ?_)
      · rintro x y ⟨i, hi, rfl⟩
        exact ⟨i, Nat.lt_succ_of_lt hi, rfl⟩
      · rintro x y rfl
        exact ⟨rows.length, Nat.lt_succ_self _, rfl⟩

theorem row_drawRowsFrom {area : Rect} {c : Canvas} (hright : area.x + area.width ≤ c.width)
    {rows : List (String × String)} (hblank : ∀ i < rows.length, c.IsBlank (area.row i)) {i : Nat}
    {row : String × String} (hrow : rows[i]? = some row) :
    ∃ before : Canvas, before.IsBlank (area.row i) ∧
      (drawRowsFrom area rows c).row (area.y + i) =
        (drawPair (area.row i) ("  " ++ row.1) row.2 {} before).row (area.y + i) := by
  induction rows using List.reverseRecOn with
  | nil => cases hrow
  | append_singleton rows last ih =>
      rw [drawRowsFrom_concat]
      have hearlier : ∀ i < rows.length, c.IsBlank (area.row i) := by
        intro i hi
        apply hblank i
        rw [List.length_append]
        omega
      by_cases hi : i < rows.length
      · rw [List.getElem?_append_left hi] at hrow
        obtain ⟨before, hbefore, heq⟩ := ih hearlier hrow
        refine ⟨before, hbefore, ?_⟩
        rw [(changesOnly_drawPair area rows.length _ _ _ _).row_eq, heq]
        intro x hline
        exact absurd (Nat.add_left_cancel hline) (Nat.ne_of_lt hi)
      · obtain ⟨hlength, -⟩ := List.getElem?_eq_some_iff.mp hrow
        rw [List.length_append, List.length_singleton] at hlength
        obtain rfl : i = rows.length := by omega
        rw [List.getElem?_concat_length] at hrow
        cases hrow
        refine ⟨drawRowsFrom area rows c, ?_, rfl⟩
        apply (hblank rows.length (by simp)).of_changesOnly hright
          (changesOnly_drawRowsFrom area rows c)
        rintro x y ⟨-, -, htop, hbottom⟩ ⟨j, hj, rfl⟩
        exact absurd htop (by simp only [Rect.row]; omega)

theorem isBlank_row {c : Canvas} {r : Rect} (h : c.IsBlank r) {i : Nat} (hi : i < r.height) :
    c.IsBlank (r.row i) := by
  rintro x y ⟨hleft, hright, htop, hbottom⟩
  simp only [Rect.row] at hleft hright htop hbottom
  exact h x y ⟨hleft, hright, by omega, by omega⟩

theorem tableShows_drawRowsFrom {c : Canvas} {overlay : Rect}
    (hright : (helpRowsArea overlay).x + (helpRowsArea overlay).width ≤ c.width)
    (hblank : c.IsBlank (helpRowsArea overlay)) {rows : List (String × String)}
    (hfits : rows.length ≤ (helpRowsArea overlay).height) :
    TableShows (drawRowsFrom (helpRowsArea overlay) rows c) overlay rows where
  fits := hfits
  drawn := by
    intro i row hrow
    exact row_drawRowsFrom hright
      (fun j hj => isBlank_row hblank (Nat.lt_of_lt_of_le hj hfits)) hrow
  empty := by
    intro i hrows hi
    apply (isBlank_row hblank hi).of_changesOnly hright (changesOnly_drawRowsFrom _ rows c)
    rintro x y ⟨-, -, htop, hbottom⟩ ⟨j, hj, rfl⟩
    exact absurd htop (by simp only [Rect.row]; omega)

theorem TableShows.of_changesOnly {c c' : Canvas} {overlay : Rect} {rows : List (String × String)}
    (h : TableShows c overlay rows) {region : Nat → Nat → Prop}
    (hright : (helpRowsArea overlay).x + (helpRowsArea overlay).width ≤ c.width)
    (hchanges : c.ChangesOnly region c')
    (hout : ∀ x y, (helpRowsArea overlay).Lines x y → ¬region x y) :
    TableShows c' overlay rows where
  fits := h.fits
  drawn := by
    intro i row hrow
    obtain ⟨hi, -⟩ := List.getElem?_eq_some_iff.mp hrow
    have hfits := h.fits
    obtain ⟨before, hbefore, heq⟩ := h.drawn i row hrow
    refine ⟨before, hbefore, ?_⟩
    rw [hchanges.row_eq, heq]
    exact fun x => hout x _ ⟨by omega, by omega⟩
  empty := by
    intro i hrows hi
    apply (h.empty i hrows hi).of_changesOnly hright hchanges
    rintro x y ⟨-, -, htop, hbottom⟩
    simp only [Rect.row] at htop hbottom
    exact hout x y ⟨by omega, by omega⟩

/-! ## The help screen -/

theorem isBlank_drawBox_clear {c : Canvas} {overlay : Rect} (hwide : 2 ≤ overlay.width)
    (hright : overlay.x + overlay.width ≤ c.width) (s : Style) (title : Line) :
    ((c.clear overlay).drawBox overlay s title).IsBlank (helpRowsArea overlay) := by
  have hwidth : (c.clear overlay).width = c.width :=
    (Canvas.changesOnly_alterAll c overlay _).width_eq
  have hcleared : (c.clear overlay).IsBlank (helpRowsArea overlay) := by
    intro x y hin
    apply Canvas.isBlank_clear hright
    simp only [Rect.Holds, helpRowsArea, Rect.inner] at hin ⊢
    omega
  refine hcleared.of_changesOnly ?_ (Canvas.changesOnly_drawBox _ overlay s title) ?_
  · simp only [hwidth, helpRowsArea, Rect.inner]
    omega
  · intro x y hin
    simp only [Rect.Holds, Rect.Border, helpRowsArea, Rect.inner] at hin ⊢
    omega

theorem tableShows_drawHelpTable (s : Session) {c : Canvas} {overlay : Rect}
    (hright : (helpRowsArea overlay).x + (helpRowsArea overlay).width ≤ c.width)
    (hblank : c.IsBlank (helpRowsArea overlay)) :
    TableShows (s.drawHelpTable overlay c) overlay (s.helpShownRows overlay) := by
  have hheading := changesOnly_drawPair overlay.inner 0 "Key" "Action"
    { bold := true, underlined := true } c
  apply tableShows_drawRowsFrom
  · rw [hheading.width_eq]
    exact hright
  · apply hblank.of_changesOnly hright hheading
    rintro x y ⟨-, -, htop, -⟩ hline
    simp only [helpRowsArea, OnLine] at htop hline
    omega
  · exact List.length_take_le _ _

theorem width_drawHelpTable (s : Session) (overlay : Rect) (c : Canvas) :
    (s.drawHelpTable overlay c).width = c.width :=
  (changesOnly_drawRowsFrom _ _ _).width_eq.trans
    (changesOnly_drawPair overlay.inner 0 _ _ _ c).width_eq

theorem tableShows_drawHelp (s : Session) {c : Canvas} {overlay : Rect}
    (hwide : 20 ≤ overlay.width) (hhigh : 6 ≤ overlay.height)
    (hright : overlay.x + overlay.width ≤ c.width) :
    TableShows (s.drawHelp overlay c) overlay (s.helpShownRows overlay) := by
  rw [drawHelp, if_neg (by simp; omega)]
  dsimp only
  have hboxed := isBlank_drawBox_clear (by omega) hright listBorder
    [plainSpan (s.helpTitle overlay)]
  have hboxWidth : ((c.clear overlay).drawBox overlay listBorder
      [plainSpan (s.helpTitle overlay)]).width = c.width :=
    (Canvas.changesOnly_drawBox _ overlay _ _).width_eq.trans
      (Canvas.changesOnly_alterAll c overlay _).width_eq
  generalize (c.clear overlay).drawBox overlay listBorder [plainSpan (s.helpTitle overlay)] =
    boxed at hboxed hboxWidth ⊢
  have hinside : (helpRowsArea overlay).x + (helpRowsArea overlay).width ≤ boxed.width := by
    rw [hboxWidth]
    simp only [helpRowsArea, Rect.inner]
    omega
  have htable := s.tableShows_drawHelpTable hinside hboxed
  split_ifs
  · refine htable.of_changesOnly ?_ (Canvas.changesOnly_drawParagraph _ _ _ _ _) ?_
    · rw [s.width_drawHelpTable]
      exact hinside
    · rintro x y ⟨htop, hbottom⟩ ⟨hline, -⟩
      simp only [helpRowsArea, Rect.inner] at htop hbottom hline
      omega
  · exact htable

/-! ## The frame -/

def helpOverlay (width height : Nat) : Rect :=
  Rect.middle ⟨0, 0, width, height⟩ (width * 80 / 100) (height * 80 / 100)

/-- The sizes at which the help screen is drawn. -/
structure HelpFits (width height : Nat) : Prop where
  wide : minWidth ≤ width
  high : minHeight ≤ height
  wideWord : width * 80 < UInt16.size
  highWord : height * 80 < UInt16.size

instance (width height : Nat) : Decidable (HelpFits width height) :=
  decidable_of_iff
    (minWidth ≤ width ∧ minHeight ≤ height ∧ width * 80 < UInt16.size ∧ height * 80 < UInt16.size)
    ⟨fun ⟨hw, hh, hw', hh'⟩ => ⟨hw, hh, hw', hh'⟩, fun ⟨hw, hh, hw', hh'⟩ => ⟨hw, hh, hw', hh'⟩⟩

theorem helpArea?_eq_some_iff {width height : Nat} {overlay : Rect} :
    helpArea? ⟨0, 0, width, height⟩ = some overlay ↔
      (width * 80 < UInt16.size ∧ height * 80 < UInt16.size) ∧
        helpOverlay width height = overlay := by
  have hplaced : width * 80 < UInt16.size → height * 80 < UInt16.size →
      helpArea? ⟨0, 0, width, height⟩ = some (helpOverlay width height) := by
    intro hwide hhigh
    have hwords : Rect.InWords ⟨0, 0, width, height⟩ := by
      constructor <;> dsimp only <;> omega
    exact Rect.centered?_of_lt hwords hwide hhigh
  constructor
  · intro h
    have hwords := Rect.lt_of_centered? h
    exact ⟨hwords, Option.some.inj ((hplaced hwords.1 hwords.2).symm.trans h)⟩
  · rintro ⟨⟨hwide, hhigh⟩, rfl⟩
    exact hplaced hwide hhigh

theorem helpOverlay_right (width height : Nat) :
    (helpOverlay width height).x + (helpOverlay width height).width ≤ width := by
  have hwithin := Rect.isWithin_middle (r := ⟨0, 0, width, height⟩)
    (Rect.share_le (show 80 ≤ 100 by decide)) (Rect.share_le (show 80 ≤ 100 by decide))
  exact hwithin.right.trans_eq (Nat.zero_add width)

theorem width_drawRows (s : Session) (now : Time.Instant) (r : Rect) (first last : Nat)
    (c : Canvas) : (s.drawRows now r first last c).width = c.width := by
  suffices h : c.ChangesOnly (fun _ _ => True) (s.drawRows now r first last c) from h.width_eq
  apply Canvas.changesOnly_foldl
  rintro ⟨row, i⟩ - c
  have hdrawn := Canvas.changesOnly_drawLine (r.row i) (ageSpan row.item.time now :: row.node) c
  dsimp only
  split
  · exact (hdrawn.mono fun _ _ _ => trivial).trans
      ((Canvas.changesOnly_paint _ _ _).mono fun _ _ _ => trivial)
  · exact hdrawn.mono fun _ _ _ => trivial

theorem drawList_spec (s : Session) (now : Time.Instant) (r : Rect) (c : Canvas) :
    (s.drawList now r c).1.width = c.width ∧
      ∃ scroll, (s.drawList now r c).2 = { s with scroll } := by
  have hbox := fun (c : Canvas) => (Canvas.changesOnly_drawBox c r listBorder
    (title s.resource)).width_eq
  rw [drawList]
  split
  · refine ⟨?_, s.scroll, rfl⟩
    exact (Canvas.changesOnly_drawParagraph _ _ _ _ _).width_eq.trans
      ((hbox _).trans (Canvas.changesOnly_paint _ _ _).width_eq)
  · dsimp only
    split_ifs
    · exact ⟨hbox c, _, rfl⟩
    · exact ⟨hbox c, _, rfl⟩
    · exact ⟨(s.syncScroll.width_drawRows _ _ _ _ _).trans (hbox c), _, rfl⟩

theorem width_drawText (r : Rect) (alignment : LineAlignment) (base : Style) (text : String)
    (c : Canvas) : (drawText r alignment base text c).width = c.width :=
  (Canvas.changesOnly_drawParagraph c r alignment base _).width_eq

theorem drawMain_spec (s : Session) (now : Time.Instant) (area : Rect) (c : Canvas) :
    (s.drawMain now area c).1.width = c.width ∧
      ∃ scroll, (s.drawMain now area c).2 = { s with scroll } := by
  unfold drawMain
  extract_lets offerHeight headed offered listArea
  have hoffered : offered.width = c.width := by
    have hheaded : headed.width = c.width :=
      (Canvas.changesOnly_drawParagraph c (area.row 0) .left {} [s.header]).width_eq
    simp only [offered]
    split
    · exact (width_drawText _ _ _ _ _).trans hheaded
    · exact hheaded
  obtain ⟨hwidth, hscroll⟩ := s.drawList_spec now listArea offered
  refine ⟨?_, hscroll⟩
  dsimp only
  rw [width_drawText, width_drawText, hwidth, hoffered]

theorem drawAll_of_helpShown {s : Session} (hshown : s.helpShown) (now : Time.Instant)
    (area : Rect) (c : Canvas) :
    ∃ below scroll, below.width = c.width ∧
      s.drawAll now area c = (helpArea? area).map fun overlay =>
        ({ s with scroll }.drawHelp overlay below, { s with scroll }) := by
  obtain ⟨hwidth, scroll, hsession⟩ := s.drawMain_spec now area c
  refine ⟨_, scroll, hwidth, ?_⟩
  rw [drawAll]
  dsimp only
  rw [hsession]
  exact if_pos hshown

theorem draw_of_large (s : Session) (now : Time.Instant) {width height : Nat}
    (hwide : minWidth ≤ width) (hhigh : minHeight ≤ height) :
    s.draw now width height =
      s.drawAll now ⟨0, 0, width, height⟩ (Canvas.blank width height) := by
  have hlarge : ¬(width < minWidth || height < minHeight) := by
    simp only [Bool.or_eq_true, decide_eq_true_eq]
    omega
  have hempty : ¬(Canvas.blank width height).area.isEmpty := by
    have hwidth : width ≠ 0 := Nat.ne_of_gt (Nat.lt_of_lt_of_le (by decide) hwide)
    have hheight : height ≠ 0 := Nat.ne_of_gt (Nat.lt_of_lt_of_le (by decide) hhigh)
    simp [Canvas.area, Canvas.blank, Rect.isEmpty, hwidth, hheight]
  rw [draw, if_neg hempty, if_neg hlarge]
  rfl

/-- Drawing fails only over the place of an open help screen. -/
theorem draw_eq_none_iff (s : Session) (now : Time.Instant) (width height : Nat) :
    s.draw now width height = none ↔
      s.helpShown = true ∧ minWidth ≤ width ∧ minHeight ≤ height ∧
        ¬(width * 80 < UInt16.size ∧ height * 80 < UInt16.size) := by
  by_cases hsize : minWidth ≤ width ∧ minHeight ≤ height
  · obtain ⟨hwide, hhigh⟩ := hsize
    rw [s.draw_of_large now hwide hhigh]
    by_cases hshown : s.helpShown
    · obtain ⟨below, scroll, -, hdrawn⟩ := drawAll_of_helpShown hshown now ⟨0, 0, width, height⟩
        (Canvas.blank width height)
      rw [hdrawn, Option.map_eq_none_iff, Option.eq_none_iff_forall_ne_some]
      simp [helpArea?_eq_some_iff, hshown, hwide, hhigh]
    · obtain ⟨-, scroll, hsession⟩ :=
        s.drawMain_spec now ⟨0, 0, width, height⟩ (Canvas.blank width height)
      rw [drawAll]
      dsimp only
      rw [hsession]
      simp [hshown]
  · have hsmall : (width < minWidth || height < minHeight) = true := by
      simp only [Bool.or_eq_true, decide_eq_true_eq]
      omega
    refine iff_of_false ?_ fun h => hsize ⟨h.2.1, h.2.2.1⟩
    rw [draw, if_pos hsmall]
    split
    · exact Option.some_ne_none _
    · exact Option.some_ne_none _

/-- A frame is drawn, and the table in it shows these rows. -/
def DrawsTable (s : Session) (now : Time.Instant) (width height : Nat)
    (rows : List (String × String)) : Prop :=
  ∃ c t, s.draw now width height = some (c, t) ∧ TableShows c (helpOverlay width height) rows

theorem drawsTable_of_helpShown {s : Session} (hshown : s.helpShown) (now : Time.Instant)
    {width height : Nat} (h : HelpFits width height) :
    s.DrawsTable now width height (s.helpShownRows (helpOverlay width height)) := by
  obtain ⟨below, scroll, hwidth, hdrawn⟩ :=
    drawAll_of_helpShown hshown now ⟨0, 0, width, height⟩ (Canvas.blank width height)
  rw [helpArea?_eq_some_iff.mpr ⟨⟨h.wideWord, h.highWord⟩, rfl⟩, Option.map_some] at hdrawn
  have hlarge : 60 ≤ width ∧ 10 ≤ height := ⟨h.wide, h.high⟩
  have hright : (helpOverlay width height).x + (helpOverlay width height).width ≤ below.width :=
    hwidth ▸ helpOverlay_right width height
  refine ⟨_, _, (s.draw_of_large now h.wide h.high).trans hdrawn, ?_⟩
  refine tableShows_drawHelp { s with scroll } ?_ ?_ hright
  · simp only [helpOverlay, Rect.middle]
    omega
  · simp only [helpOverlay, Rect.middle]
    omega

/-! ## Rows that can be brought into view -/

theorem helpShownRows_eq (s : Session) (overlay : Rect) :
    s.helpShownRows overlay =
      (s.keymap.helpRows.drop (s.helpFirst overlay)).take (helpRowsArea overlay).height := by
  rw [helpShownRows, List.take_take, Nat.min_eq_left]
  simp only [helpRowsArea, Rect.inner, helpVisible]
  omega

theorem mem_helpShownRows_iff {s : Session} {overlay : Rect} {i : Nat} {row : String × String}
    (hrow : s.keymap.helpRows[i]? = some row) :
    row ∈ s.helpShownRows overlay ↔
      s.helpFirst overlay ≤ i ∧ i < s.helpFirst overlay + (helpRowsArea overlay).height := by
  rw [helpShownRows_eq, List.mem_iff_getElem?]
  simp only [List.getElem?_take, List.getElem?_drop]
  constructor
  · rintro ⟨j, hj⟩
    obtain ⟨hline, hj⟩ : j < (helpRowsArea overlay).height ∧
        s.keymap.helpRows[s.helpFirst overlay + j]? = some row := by simpa using hj
    obtain ⟨hlength, -⟩ := List.getElem?_eq_some_iff.mp hrow
    obtain rfl : i = s.helpFirst overlay + j :=
      (List.getElem?_inj hlength s.keymap.nodup_helpRows).mp (hrow.trans hj.symm)
    omega
  · rintro ⟨hfirst, hlast⟩
    refine ⟨i - s.helpFirst overlay, ?_⟩
    rw [if_pos (by omega), Nat.add_sub_cancel' hfirst]
    exact hrow

def withHelpScroll (s : Session) (scroll : Nat) : Session := { s with helpScroll := scroll }

theorem exists_scroll_mem_iff {s : Session} {overlay : Rect}
    (hline : 0 < (helpRowsArea overlay).height) {i : Nat} {row : String × String}
    (hrow : s.keymap.helpRows[i]? = some row) :
    (∃ scroll, row ∈ (s.withHelpScroll scroll).helpShownRows overlay) ↔
      i + 1 < s.keymap.helpRows.length ∨
        s.keymap.helpRows.length ≤ (helpRowsArea overlay).height := by
  obtain ⟨hlength, -⟩ := List.getElem?_eq_some_iff.mp hrow
  have hvisible : helpVisible overlay = (helpRowsArea overlay).height + 1 := by
    simp only [helpVisible, helpRowsArea, Rect.inner] at hline ⊢
    omega
  have hfirst : ∀ scroll, (s.withHelpScroll scroll).helpFirst overlay =
      min scroll (s.keymap.helpRows.length - ((helpRowsArea overlay).height + 1)) := by
    intro scroll
    rw [← hvisible]
    rfl
  constructor
  · rintro ⟨scroll, hmem⟩
    rw [mem_helpShownRows_iff (s := s.withHelpScroll scroll) hrow, hfirst] at hmem
    omega
  · intro hroom
    refine ⟨i, (mem_helpShownRows_iff (s := s.withHelpScroll i) hrow).mpr ?_⟩
    rw [hfirst]
    omega

/--
On a screen that is large enough, all rows but the last can be brought into view, and the last one
exactly if the screen has at least 18 lines.
-/
theorem help_rows_drawn_iff {s : Session} (hkeymap : s.keymap.Reachable) (hshown : s.helpShown)
    {width height : Nat} (hwide : 60 ≤ width) (hhigh : 10 ≤ height)
    (hwideWord : width * 80 < UInt16.size) (hhighWord : height * 80 < UInt16.size) :
    (∀ scroll now, (s.withHelpScroll scroll).DrawsTable now width height
      ((s.withHelpScroll scroll).helpShownRows (helpOverlay width height))) ∧
    (∀ row ∈ s.keymap.helpRows.dropLast, ∃ scroll,
      row ∈ (s.withHelpScroll scroll).helpShownRows (helpOverlay width height)) ∧
    ((∀ row ∈ s.keymap.helpRows, ∃ scroll,
        row ∈ (s.withHelpScroll scroll).helpShownRows (helpOverlay width height)) ↔
      18 ≤ height) := by
  have hrows : s.keymap.helpRows.length = 10 := hkeymap.housed.length_helpRows
  have hlines : (helpRowsArea (helpOverlay width height)).height = height * 80 / 100 - 4 := by
    simp only [helpRowsArea, Rect.inner, helpOverlay, Rect.middle, Nat.sub_sub]
  have hfits : HelpFits width height := ⟨hwide, hhigh, hwideWord, hhighWord⟩
  have hline : 0 < (helpRowsArea (helpOverlay width height)).height := by omega
  have hshow := fun {i row} (hrow : s.keymap.helpRows[i]? = some row) =>
    exists_scroll_mem_iff hline hrow
  rw [hrows, hlines] at hshow
  refine ⟨fun scroll now => ?_, ?_, ?_, ?_⟩
  · exact drawsTable_of_helpShown (s := s.withHelpScroll scroll) hshown now hfits
  · intro row hmem
    obtain ⟨i, hrow⟩ := List.mem_iff_getElem?.mp hmem
    rw [List.getElem?_dropLast] at hrow
    obtain ⟨hi, hrow⟩ := Option.ite_none_right_eq_some.mp hrow
    exact (hshow hrow).mpr (by omega)
  · intro hall
    have hlast := List.getElem?_eq_getElem (l := s.keymap.helpRows) (i := 9) (by omega)
    have hseen := (hshow hlast).mp (hall _ (List.mem_of_getElem? hlast))
    omega
  · intro hheight row hmem
    obtain ⟨i, hrow⟩ := List.mem_iff_getElem?.mp hmem
    exact (hshow hrow).mpr (by omega)

theorem help_rows_drawn_of_override :
    let keymap := (Keymap.default.applyOverrides [("quit", "x")]).2
    let s : Session := { userSession with keymap, helpShown := true }
    ("x", "Quit application") ∈ s.keymap.helpRows ∧
      ∀ row ∈ s.keymap.helpRows, ∃ scroll,
        row ∈ (s.withHelpScroll scroll).helpShownRows (helpOverlay 80 24) := by
  intro keymap s
  have hreachable : s.keymap.Reachable := .overridden .default _
  have hshow : (∀ row ∈ s.keymap.helpRows, ∃ scroll,
      row ∈ (s.withHelpScroll scroll).helpShownRows (helpOverlay 80 24)) ↔ 18 ≤ 24 :=
    (help_rows_drawn_iff hreachable rfl (by decide) (by decide) (by decide) (by decide)).2.2
  exact ⟨by decide, hshow.mpr (by decide)⟩

/-- On a screen of 12 lines one cannot read how the help screen is opened. -/
theorem last_help_row_out_of_view :
    let s : Session := { userSession with helpShown := true }
    ("?", "Show help") ∈ s.keymap.helpRows ∧
      (∀ scroll now, (s.withHelpScroll scroll).DrawsTable now 60 12
        ((s.withHelpScroll scroll).helpShownRows (helpOverlay 60 12))) ∧
      (∀ scroll, ("?", "Show help") ∉
        (s.withHelpScroll scroll).helpShownRows (helpOverlay 60 12)) ∧
      ¬∀ row ∈ s.keymap.helpRows, ∃ scroll,
        row ∈ (s.withHelpScroll scroll).helpShownRows (helpOverlay 60 12) := by
  intro s
  have hmem : ("?", "Show help") ∈ s.keymap.helpRows := by decide
  have hnever : ¬∃ scroll, ("?", "Show help") ∈
      (s.withHelpScroll scroll).helpShownRows (helpOverlay 60 12) := by
    rw [exists_scroll_mem_iff (s := s) (i := 9) (by decide) (by decide)]
    decide
  refine ⟨hmem, fun scroll now => ?_, not_exists.mp hnever, fun hall => hnever (hall _ hmem)⟩
  exact drawsTable_of_helpShown (s := s.withHelpScroll scroll) rfl now (by decide)

end FeedReader.Session
