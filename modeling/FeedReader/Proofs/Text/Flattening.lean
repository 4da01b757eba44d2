import FeedReader.Proofs.Text.Spacing
import Mathlib.Data.List.Forall2
import Mathlib.Data.List.Induction

/-!
# One line from any text

Whatever a text holds, closed and unclosed escape sequences among it, reading it through leaves
a tidy and singly spaced line: what one character can do to the line is said once, and a whole
text is followed character by character.  A text with nothing to be taken out is read back as
it is, so where the quick look spares the reading, only blanks other than the space can make
the two differ.
-/

namespace FeedReader.Text

def StandsFor (c d : Char) : Prop := d = c ∨ isBlank c = true ∧ d = ' '

def IsDrawn (s line : List Char) : Prop :=
  ∃ shown, shown.Sublist s ∧ List.Forall₂ StandsFor shown line

namespace IsDrawn

variable {s line : List Char}

theorem refl (s : List Char) : IsDrawn s s :=
  ⟨s, .refl s, List.forall₂_same.mpr fun _ _ => .inl rfl⟩

theorem mono {more : List Char} (h : IsDrawn s line) : IsDrawn (s ++ more) line := by
  obtain ⟨shown, hshown, hstand⟩ := h
  exact ⟨shown, hshown.trans (List.sublist_append_left s more), hstand⟩

theorem nil (s : List Char) : IsDrawn s [] := ⟨[], List.nil_sublist s, .nil⟩

theorem of_append {more : List Char} (h : IsDrawn s (line ++ more)) : IsDrawn s line := by
  obtain ⟨shown, hshown, hstand⟩ := h
  refine ⟨shown.take line.length, (List.take_sublist _ shown).trans hshown, ?_⟩
  simpa using List.forall₂_take line.length hstand

theorem concat {c d : Char} (h : IsDrawn s line) (hd : StandsFor c d) :
    IsDrawn (s ++ [c]) (line ++ [d]) := by
  obtain ⟨shown, hshown, hstand⟩ := h
  exact ⟨shown ++ [c], hshown.append (.refl [c]),
    List.rel_append hstand (.cons hd .nil)⟩

theorem filter_sublist (h : IsDrawn s line) : (line.filter (· ≠ ' ')).Sublist s := by
  obtain ⟨shown, hshown, hstand⟩ := h
  refine List.Sublist.trans ?_ hshown
  clear hshown
  induction hstand with
  | nil => exact .refl []
  | @cons c d shown line hd _ ih =>
      obtain rfl | ⟨-, rfl⟩ := hd
      · rw [List.filter_cons]
        split
        · exact ih.cons_cons d
        · exact ih.cons d
      · rw [List.filter_cons_of_neg (by simp)]
        exact ih.cons c

end IsDrawn

/-! ## One character -/

namespace LineState

variable {st : LineState} {c : Char} {read : List Char}

def due (st : LineState) : List Char := if st.gap then ' ' :: st.kept else st.kept

theorem due_of_gap (h : st.gap = true) : st.due = ' ' :: st.kept := if_pos h

theorem due_of_not_gap (h : st.gap = false) : st.due = st.kept := by
  rw [due, h]
  rfl

inductive Turn (st : LineState) (c : Char) : LineState → Prop
  | takenOut (mode : EscapeMode) : Turn st c { st with mode }
  | gap (mode : EscapeMode) (hblank : isBlank c = true) :
      Turn st c { st with mode, gap := !st.kept.isEmpty }
  | written (mode : EscapeMode) (hcontrol : isControl c = false) (hblank : isBlank c = false) :
      Turn st c ⟨mode, c :: st.due, false⟩

theorem turn_text (st : LineState) (c : Char) : Turn st c (st.text c) := by
  fun_cases text st c with
  | case1 => exact .takenOut .started
  | case2 _ hblank => exact .gap .none hblank
  | case3 => exact .takenOut .none
  | case4 _ hblank hcontrol =>
      exact .written .none (Bool.eq_false_iff.mpr hcontrol) (Bool.eq_false_iff.mpr hblank)

theorem turn_command (st : LineState) (c : Char) : Turn st c (st.command c) := by
  rw [command]
  split_ifs <;> exact .takenOut _

theorem turn_feed (st : LineState) (c : Char) : Turn st c (st.feed c) := by
  rw [LineState.feed]
  cases st.mode with
  | none => exact turn_text st c
  | started =>
      dsimp only
      split_ifs
      · exact .takenOut .control
      · exact .takenOut .command
      · exact turn_text st c
  | control =>
      dsimp only
      split_ifs
      · exact .takenOut .none
      · exact .takenOut st.mode
  | command => exact turn_command st c
  | commandEnd =>
      dsimp only
      split_ifs
      · exact .takenOut .none
      · exact turn_command st c

/-! ## What a reading keeps -/

/-- What has been read is in the line so far, as far as it is to be shown. -/
structure Sound (read : List Char) (st : LineState) : Prop where
  no_control : ∀ c ∈ st.kept, isControl c = false
  spaced : SinglySpaced st.kept
  kept_of_gap : st.gap = true → st.kept ≠ []
  drawn : IsDrawn read st.due.reverse

theorem sound_start : Sound [] {} where
  no_control := by simp
  spaced := .nil
  kept_of_gap := by simp
  drawn := .refl []

theorem Sound.spaced_cons_due (h : Sound read st) (hc : isBlank c = false) :
    SinglySpaced (c :: st.due) := by
  cases hgap : st.gap with
  | true =>
      rw [due_of_gap hgap]
      exact h.spaced.cons_space (h.kept_of_gap hgap) hc
  | false =>
      rw [due_of_not_gap hgap]
      exact h.spaced.cons hc

theorem Sound.no_control_due (h : Sound read st) : ∀ c ∈ st.due, isControl c = false := by
  rw [due]
  split
  · exact List.forall_mem_cons.mpr ⟨isControl_space, h.no_control⟩
  · exact h.no_control

theorem Sound.drawn_gap (h : Sound read st) (mode : EscapeMode) (hblank : isBlank c = true) :
    IsDrawn (read ++ [c])
      (due { st with mode, gap := !st.kept.isEmpty }).reverse := by
  cases hkept : st.kept with
  | nil => exact .nil _
  | cons last kept =>
      rw [due_of_gap rfl, ← hkept]
      cases hgap : st.gap with
      | true =>
          rw [← due_of_gap hgap]
          exact h.drawn.mono
      | false =>
          rw [List.reverse_cons, ← due_of_not_gap hgap]
          exact h.drawn.concat (.inr ⟨hblank, rfl⟩)

theorem Sound.turn {next : LineState} (h : Sound read st) (hnext : Turn st c next) :
    Sound (read ++ [c]) next := by
  cases hnext with
  | takenOut mode => exact ⟨h.no_control, h.spaced, h.kept_of_gap, h.drawn.mono⟩
  | gap mode hblank =>
      exact ⟨h.no_control, h.spaced, by simp, h.drawn_gap mode hblank⟩
  | written mode hcontrol hblank =>
      refine ⟨List.forall_mem_cons.mpr ⟨hcontrol, h.no_control_due⟩, h.spaced_cons_due hblank,
        by simp, ?_⟩
      change IsDrawn (read ++ [c]) (c :: st.due).reverse
      rw [List.reverse_cons]
      exact h.drawn.concat (.inl rfl)

theorem sound_foldl (s : List Char) : Sound s (s.foldl LineState.feed {}) := by
  induction s using List.reverseRecOn with
  | nil => exact sound_start
  | append_singleton s c ih =>
      rw [List.foldl_concat]
      exact ih.turn (turn_feed _ c)

/-! ## What is written as it is read -/

theorem feed_of_mode (hmode : st.mode = .none) (c : Char) : st.feed c = st.text c := by
  rw [LineState.feed, hmode]

theorem not_gap_of_due (h : ∀ d ∈ st.due.head?, isBlank d = false) : st.gap = false := by
  refine Bool.eq_false_iff.mpr fun hgap => ?_
  rw [due_of_gap hgap] at h
  have hspace := h ' ' rfl
  rw [isBlank_space] at hspace
  cases hspace

theorem text_of_letter (hcontrol : isControl c = false) (hblank : isBlank c = false) :
    st.text c = ⟨.none, c :: st.due, false⟩ := by
  rw [text, if_neg (ne_escape_of_isControl hcontrol), hblank, hcontrol]
  rfl

theorem text_space {d : Char} (hhead : st.due.head? = some d) (hd : isBlank d = false) :
    (st.text ' ').mode = .none ∧ (st.text ' ').due = ' ' :: st.due := by
  have hkept : st.due = st.kept := due_of_not_gap <| not_gap_of_due fun e he => by
    obtain rfl := Option.some.inj (hhead.symm.trans he)
    exact hd
  have hgap : (st.text ' ').gap = true := by
    rw [hkept] at hhead
    cases hempty : st.kept with
    | nil => simp [hempty] at hhead
    | cons last kept => simp [text, isBlank_space, hempty]
  refine ⟨rfl, ?_⟩
  rw [due_of_gap hgap, hkept]
  rfl

theorem foldl_feed_of_singlySpaced {s rest : List Char}
    (hcontrol : ∀ c ∈ s, isControl c = false) (h : SinglySpaced (s ++ rest)) :
    (s.foldl LineState.feed {}).mode = .none ∧ (s.foldl LineState.feed {}).due = s.reverse := by
  -- From the end: a space after what has been read waits for the rest, and so it is still due.
  induction s using List.reverseRecOn generalizing rest with
  | nil => exact ⟨rfl, rfl⟩
  | append_singleton s c ih =>
      rw [List.append_assoc, List.singleton_append] at h
      obtain ⟨hcontrol, hc⟩ := List.forall_mem_append.mp hcontrol
      obtain ⟨hmode, hdue⟩ := ih hcontrol h
      rw [List.foldl_concat, List.reverse_append, List.reverse_singleton, ← hdue,
        feed_of_mode hmode]
      cases hblank : isBlank c with
      | true =>
          obtain ⟨rfl, d, hlast, hd⟩ := h.before_blank hblank
          exact text_space (by rw [hdue, List.head?_reverse, hlast]) hd
      | false =>
          rw [text_of_letter (hc c (List.mem_singleton_self c)) hblank]
          exact ⟨rfl, rfl⟩

end LineState

/-! ## Whole texts -/

theorem singlySpaced_flatten (s : List Char) : SinglySpaced (flatten s) :=
  (LineState.sound_foldl s).spaced.reverse

theorem isTidy_flatten (s : List Char) : IsTidy (flatten s) :=
  (singlySpaced_flatten s).isTidy fun c hc =>
    (LineState.sound_foldl s).no_control c (List.mem_reverse.mp hc)

theorem isDrawn_flatten (s : List Char) : IsDrawn s (flatten s) := by
  have hdrawn := (LineState.sound_foldl s).drawn
  rw [LineState.due] at hdrawn
  split at hdrawn
  · rw [List.reverse_cons] at hdrawn
    exact hdrawn.of_append
  · exact hdrawn

theorem flatten_of_singlySpaced {s : List Char} (hcontrol : ∀ c ∈ s, isControl c = false)
    (h : SinglySpaced s) : flatten s = s := by
  have hall : SinglySpaced (s ++ []) := by rwa [List.append_nil]
  have hdue := (LineState.foldl_feed_of_singlySpaced hcontrol hall).2
  have hgap : (s.foldl LineState.feed {}).gap = false := by
    refine LineState.not_gap_of_due ?_
    rw [hdue, List.head?_reverse]
    exact h.last
  rw [flatten, ← LineState.due_of_not_gap hgap, hdue, List.reverse_reverse]

/-! ## With the quick look -/

variable {s : String}

theorem singleLine_of_isTidy (h : IsTidy s.toList) : singleLine s = s :=
  if_pos ((isClean_iff _).mpr h)

theorem singleLine_of_not_isTidy (h : ¬IsTidy s.toList) :
    singleLine s = String.ofList (flatten s.toList) :=
  if_neg fun hclean => h ((isClean_iff _).mp hclean)

theorem isTidy_singleLine (s : String) : IsTidy (singleLine s).toList := by
  by_cases h : IsTidy s.toList
  · rwa [singleLine_of_isTidy h]
  · rw [singleLine_of_not_isTidy h, String.toList_ofList]
    exact isTidy_flatten _

theorem isDrawn_singleLine (s : String) : IsDrawn s.toList (singleLine s).toList := by
  by_cases h : IsTidy s.toList
  · rw [singleLine_of_isTidy h]
    exact .refl _
  · rw [singleLine_of_not_isTidy h, String.toList_ofList]
    exact isDrawn_flatten _

/-- The text looks clean and holds a blank other than the space. -/
def HidesBlank (s : List Char) : Prop := IsTidy s ∧ ∃ c ∈ s, isBlank c = true ∧ c ≠ ' '

theorem singlySpaced_iff_not_hidesBlank {s : List Char} (h : IsTidy s) :
    SinglySpaced s ↔ ¬HidesBlank s := by
  rw [h.singlySpaced_iff, HidesBlank]
  push Not
  exact ⟨fun hspace _ => hspace, fun hspace => hspace h⟩

theorem singleLine_eq_of_not_hidesBlank (h : ¬HidesBlank s.toList) :
    singleLine s = String.ofList (flatten s.toList) := by
  by_cases htidy : IsTidy s.toList
  · have hspaced := (singlySpaced_iff_not_hidesBlank htidy).mpr h
    rw [singleLine_of_isTidy htidy, flatten_of_singlySpaced htidy.no_control hspaced,
      String.ofList_toList]
  · exact singleLine_of_not_isTidy htidy

/--
Reading a text through leaves single spaces in it.  A text that looks clean is as if it had been
read, and has single spaces, exactly if it hides no blank other than the space.
-/
theorem singleLine_eq_flatten_iff (s : String) :
    SinglySpaced (flatten s.toList) ∧
      (singleLine s = String.ofList (flatten s.toList) ↔ ¬HidesBlank s.toList) ∧
      (SinglySpaced (singleLine s).toList ↔ ¬HidesBlank s.toList) := by
  have hflatten := singlySpaced_flatten s.toList
  have hread : singleLine s = String.ofList (flatten s.toList) →
      SinglySpaced (singleLine s).toList := by
    intro heq
    rwa [heq, String.toList_ofList]
  have hspaced : SinglySpaced (singleLine s).toList → ¬HidesBlank s.toList := by
    intro hline hhides
    rw [singleLine_of_isTidy hhides.1] at hline
    exact (singlySpaced_iff_not_hidesBlank hhides.1).mp hline hhides
  have heq := @singleLine_eq_of_not_hidesBlank s
  exact ⟨hflatten, ⟨fun h => hspaced (hread h), heq⟩, ⟨hspaced, fun h => hread (heq h)⟩⟩

/-- A line separator is a blank, and no space. -/
theorem line_separator_not_collapsed :
    singleLine "a\u2028b" = "a\u2028b" ∧
      String.ofList (flatten "a\u2028b".toList) = "a b" ∧
      ¬SinglySpaced (singleLine "a\u2028b").toList := by
  have hline : singleLine "a\u2028b" = "a\u2028b" := by decide +kernel
  refine ⟨hline, by decide +kernel, fun h => ?_⟩
  rw [hline] at h
  exact absurd (h.blank_eq_space '\u2028' (by decide) (by decide)) (by decide)

/--
Whatever the text, the line that comes out can drive no terminal, and neither ends nor double
spaces are left to be cut.  It is made of part of the text, blanks as spaces, and comes out as
it is a second time.
-/
theorem singleLine_isTidy_and_stable (s : String) :
    IsTidy (singleLine s).toList ∧ IsDrawn s.toList (singleLine s).toList ∧
      ((singleLine s).toList.filter (· ≠ ' ')).Sublist s.toList ∧
      singleLine (singleLine s) = singleLine s :=
  have htidy := isTidy_singleLine s
  have hdrawn := isDrawn_singleLine s
  ⟨htidy, hdrawn, hdrawn.filter_sublist, singleLine_of_isTidy htidy⟩

example : singleLine " \x1b]0;t\x07bell\x07 \n\x00nul \x1b[" = "bell nul" := by decide +kernel

end FeedReader.Text
