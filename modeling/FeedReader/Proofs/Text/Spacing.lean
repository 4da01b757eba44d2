import FeedReader.Text.Line
import Mathlib.Data.List.Chain

/-!
# Spaces of a line

A line is tidy if nothing in it can drive a terminal and neither its ends nor double spaces are
left to be cut, which is what the quick look at a text finds out.  It is singly spaced if every
run of blank characters is one space between two other characters.  A singly spaced line without
control characters is tidy, and a tidy line is singly spaced unless it has blanks other than the
space.
-/

namespace FeedReader.Text

/-! ## Characters -/

theorem isBlank_space : isBlank ' ' = true := by decide

theorem isControl_space : isControl ' ' = false := by decide

theorem isControl_escape : isControl '\x1b' = true := by decide

theorem ne_escape_of_isControl {c : Char} (h : isControl c = false) : c ≠ '\x1b' := by
  rintro rfl
  rw [isControl_escape] at h
  cases h

/-! ## Lines -/

/-- Every run of blank characters is a single space between two other characters. -/
structure SinglySpaced (line : List Char) : Prop where
  blank_eq_space : ∀ c ∈ line, isBlank c = true → c = ' '
  alone : line.IsChain fun c next => isBlank c = false ∨ isBlank next = false
  first : ∀ c ∈ line.head?, isBlank c = false
  last : ∀ c ∈ line.getLast?, isBlank c = false

/-- Nothing in the line can drive a terminal, and nothing is left to be trimmed. -/
structure IsTidy (line : List Char) : Prop where
  no_control : ∀ c ∈ line, isControl c = false
  no_double_space : line.IsChain fun c next => c ≠ ' ' ∨ next ≠ ' '
  first : ∀ c ∈ line.head?, isBlank c = false
  last : ∀ c ∈ line.getLast?, isBlank c = false

namespace SinglySpaced

variable {line : List Char} {c : Char}

theorem nil : SinglySpaced [] where
  blank_eq_space := by simp
  alone := List.isChain_nil
  first := by simp
  last := by simp

theorem reverse (h : SinglySpaced line) : SinglySpaced line.reverse where
  blank_eq_space c hc := h.blank_eq_space c (List.mem_reverse.mp hc)
  alone := List.isChain_reverse.mpr (h.alone.imp fun _ _ => Or.symm)
  first := by rw [List.head?_reverse]; exact h.last
  last := by rw [List.getLast?_reverse]; exact h.first

theorem cons (h : SinglySpaced line) (hc : isBlank c = false) : SinglySpaced (c :: line) where
  blank_eq_space := List.forall_mem_cons.mpr ⟨by simp [hc], h.blank_eq_space⟩
  alone := List.isChain_cons.mpr ⟨fun _ _ => .inl hc, h.alone⟩
  first := by simp [hc]
  last := by
    cases line with
    | nil => simp [hc]
    | cons next rest =>
        rw [List.getLast?_cons_cons]
        exact h.last

theorem cons_space (h : SinglySpaced line) (hline : line ≠ []) (hc : isBlank c = false) :
    SinglySpaced (c :: ' ' :: line) where
  blank_eq_space := by
    simpa [hc] using h.blank_eq_space
  alone := by
    rw [List.isChain_cons_cons, List.isChain_cons]
    exact ⟨.inl hc, fun d hd => .inr (h.first d hd), h.alone⟩
  first := by simp [hc]
  last := by
    obtain ⟨next, rest, rfl⟩ := List.exists_cons_of_ne_nil hline
    rw [List.getLast?_cons_cons, List.getLast?_cons_cons]
    exact h.last

theorem before_blank {rest : List Char} (h : SinglySpaced (line ++ c :: rest))
    (hc : isBlank c = true) : c = ' ' ∧ ∃ d, line.getLast? = some d ∧ isBlank d = false := by
  refine ⟨h.blank_eq_space c (by simp) hc, ?_⟩
  cases hlast : line.getLast? with
  | none =>
      rw [List.getLast?_eq_none_iff] at hlast
      have hfirst := h.first c (by rw [hlast]; rfl)
      rw [hc] at hfirst
      cases hfirst
  | some d =>
      have hpair := (List.isChain_append.mp h.alone).2.2 d hlast c rfl
      exact ⟨d, rfl, hpair.resolve_right (by simp [hc])⟩

theorem isTidy (h : SinglySpaced line) (hcontrol : ∀ c ∈ line, isControl c = false) :
    IsTidy line where
  no_control := hcontrol
  no_double_space := h.alone.imp fun c next => by
    rintro (hc | hnext)
    · exact .inl fun heq => by simp [heq, isBlank_space] at hc
    · exact .inr fun heq => by simp [heq, isBlank_space] at hnext
  first := h.first
  last := h.last

end SinglySpaced

theorem IsTidy.singlySpaced_iff {line : List Char} (h : IsTidy line) :
    SinglySpaced line ↔ ∀ c ∈ line, isBlank c = true → c = ' ' := by
  refine ⟨SinglySpaced.blank_eq_space, fun hspace => ⟨hspace, ?_, h.first, h.last⟩⟩
  have hletter : ∀ c ∈ line, c ≠ ' ' → isBlank c = false := fun c hc hne =>
    Bool.eq_false_iff.mpr fun hblank => hne (hspace c hc hblank)
  refine h.no_double_space.imp_of_mem_imp fun c next hc hnext => ?_
  exact Or.imp (hletter c hc) (hletter next hnext)

/-! ## The quick look -/

theorem hasDoubleSpace_eq_false_iff (s : List Char) :
    hasDoubleSpace s = false ↔ s.IsChain fun c next => c ≠ ' ' ∨ next ≠ ' ' := by
  fun_induction hasDoubleSpace s with
  | case1 rest => simp
  | case2 c rest hpair ih =>
      cases rest with
      | nil => simp [hasDoubleSpace]
      | cons next rest =>
          have hne : c ≠ ' ' ∨ next ≠ ' ' := by
            by_contra hboth
            rw [not_or, not_not, not_not] at hboth
            exact hpair rest hboth.1 (by rw [hboth.2])
          rw [ih, List.isChain_cons_cons]
          exact (and_iff_right hne).symm
  | case3 => simp

theorem isClean_iff (s : List Char) : isClean s = true ↔ IsTidy s := by
  have hnone : ∀ o : Option Char, (!o.any isBlank) = true ↔ ∀ c ∈ o, isBlank c = false := by
    intro o
    cases o <;> simp
  rw [isClean, Bool.and_eq_true, Bool.and_eq_true, Bool.and_eq_true, hnone, hnone,
    Bool.not_eq_true', Bool.not_eq_true', hasDoubleSpace_eq_false_iff, List.any_eq_false]
  constructor
  · rintro ⟨⟨⟨hcontrol, hdouble⟩, hfirst⟩, hlast⟩
    exact ⟨fun c hc => Bool.eq_false_iff.mpr (hcontrol c hc), hdouble, hfirst, hlast⟩
  · intro h
    exact ⟨⟨⟨fun c hc => Bool.eq_false_iff.mp (h.no_control c hc), h.no_double_space⟩, h.first⟩,
      h.last⟩

end FeedReader.Text
