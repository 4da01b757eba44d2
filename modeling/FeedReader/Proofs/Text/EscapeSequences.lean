import FeedReader.Proofs.Text.Flattening

/-!
# Escape sequences

A complete escape sequence takes the reading back to where it was before: nothing is written, a
gap that is open stays open, and what follows is read as if the sequence had not been there.
The quick look is spared in one text and perhaps not in the other, which is why blanks have to
be ASCII for the lines to be the same.
-/

namespace FeedReader.Text

def isFinal (c : Char) : Bool := '@' ≤ c && c ≤ '~'

inductive IsSequence : List Char → Prop
  | control (parameters : List Char) (last : Char)
      (hparameters : ∀ c ∈ parameters, isFinal c = false) (hlast : isFinal last = true) :
      IsSequence ('\x1b' :: '[' :: (parameters ++ [last]))
  | command (content ending : List Char) (hbell : '\x07' ∉ content) (hescape : '\x1b' ∉ content)
      (hending : ending = ['\x07'] ∨ ending = ['\x1b', '\\']) :
      IsSequence ('\x1b' :: ']' :: (content ++ ending))

/-! ## Reading a sequence -/

namespace LineState

variable {kept : List Char} {gap : Bool}

theorem foldl_feed_control {parameters : List Char} {last : Char}
    (hparameters : ∀ c ∈ parameters, isFinal c = false) (hlast : isFinal last = true) :
    (parameters ++ [last]).foldl LineState.feed ⟨.control, kept, gap⟩ = ⟨.none, kept, gap⟩ := by
  have hfeed : ∀ c, LineState.feed ⟨.control, kept, gap⟩ c =
      if isFinal c then ⟨.none, kept, gap⟩ else ⟨.control, kept, gap⟩ := fun _ => rfl
  induction parameters with
  | nil => simp [hfeed, hlast]
  | cons c parameters ih =>
      obtain ⟨hc, hparameters⟩ := List.forall_mem_cons.mp hparameters
      simpa [hfeed, hc] using ih hparameters

theorem foldl_feed_command {content ending : List Char} (hbell : '\x07' ∉ content)
    (hescape : '\x1b' ∉ content) (hending : ending = ['\x07'] ∨ ending = ['\x1b', '\\']) :
    (content ++ ending).foldl LineState.feed ⟨.command, kept, gap⟩ = ⟨.none, kept, gap⟩ := by
  induction content with
  | nil => obtain rfl | rfl := hending <;> rfl
  | cons c content ih =>
      rw [List.mem_cons, not_or] at hbell hescape
      have hfeed : LineState.feed ⟨.command, kept, gap⟩ c = ⟨.command, kept, gap⟩ := by
        simp [LineState.feed, command, Ne.symm hbell.1, Ne.symm hescape.1]
      rw [List.cons_append, List.foldl_cons, hfeed]
      exact ih hbell.2 hescape.2

theorem foldl_feed_sequence {q : List Char} (hq : IsSequence q) :
    q.foldl LineState.feed ⟨.none, kept, gap⟩ = ⟨.none, kept, gap⟩ := by
  cases hq with
  | control parameters last hparameters hlast => exact foldl_feed_control hparameters hlast
  | command content ending hbell hescape hending =>
      exact foldl_feed_command hbell hescape hending

theorem mode_text_of_ne {c : Char} (h : c ≠ '\x1b') (st : LineState) :
    (st.text c).mode = .none := by
  rw [text, if_neg h]
  split_ifs <;> rfl

theorem mode_foldl_feed {s : List Char} (hs : '\x1b' ∉ s) :
    (s.foldl LineState.feed {}).mode = .none := by
  induction s using List.reverseRecOn with
  | nil => rfl
  | append_singleton s c ih =>
      rw [List.mem_append, not_or, List.mem_singleton] at hs
      rw [List.foldl_concat, feed_of_mode (ih hs.1)]
      exact mode_text_of_ne (Ne.symm hs.2) _

end LineState

theorem flatten_sequence {q s : List Char} (hq : IsSequence q) (hs : '\x1b' ∉ s)
    (t : List Char) : flatten (s ++ q ++ t) = flatten (s ++ t) := by
  have hmode := LineState.mode_foldl_feed hs
  have hback : q.foldl LineState.feed (s.foldl LineState.feed {}) = s.foldl LineState.feed {} := by
    generalize s.foldl LineState.feed {} = st at hmode
    obtain ⟨mode, kept, gap⟩ := st
    obtain rfl : mode = .none := hmode
    exact LineState.foldl_feed_sequence hq
  rw [flatten, flatten, List.foldl_append, List.foldl_append, hback, List.foldl_append]

/-! ## With the quick look -/

theorem eq_space_of_ascii {c : Char} (hblank : isBlank c = true) (hcontrol : isControl c = false)
    (hascii : c.toNat < 0x80) : c = ' ' := by
  have hall : ∀ n < 0x80, isBlank (Char.ofNat n) = true → isControl (Char.ofNat n) = false →
      Char.ofNat n = ' ' := by decide +kernel
  have hc := hall c.toNat hascii
  rw [Char.ofNat_toNat] at hc
  exact hc hblank hcontrol

def HasAsciiBlanks (s : List Char) : Prop := ∀ c ∈ s, isBlank c = true → c.toNat < 0x80

instance (s : List Char) : Decidable (HasAsciiBlanks s) := List.decidableBAll _ _

theorem HasAsciiBlanks.not_hidesBlank {s : List Char} (h : HasAsciiBlanks s) : ¬HidesBlank s := by
  rintro ⟨htidy, c, hc, hblank, hne⟩
  exact hne (eq_space_of_ascii hblank (htidy.no_control c hc) (h c hc hblank))

theorem not_isTidy_of_escape {s : List Char} (h : '\x1b' ∈ s) : ¬IsTidy s := fun htidy =>
  ne_escape_of_isControl (htidy.no_control _ h) rfl

theorem IsSequence.escape_mem {q : List Char} (hq : IsSequence q) : '\x1b' ∈ q := by
  cases hq <;> exact List.mem_cons_self

/--
A complete sequence can be left out of a text, wherever it stands outside other sequences, as
long as the blanks around it are ASCII.
-/
theorem singleLine_sequence {q s t : String} (hq : IsSequence q.toList) (hs : '\x1b' ∉ s.toList)
    (hblank : HasAsciiBlanks (s.toList ++ t.toList)) :
    singleLine (s ++ q ++ t) = singleLine (s ++ t) := by
  have hescape : '\x1b' ∈ (s ++ q ++ t).toList := by
    simp [String.toList_append, hq.escape_mem]
  have hwithout : ¬HidesBlank (s ++ t).toList := by
    rw [String.toList_append]
    exact hblank.not_hidesBlank
  rw [singleLine_of_not_isTidy (not_isTidy_of_escape hescape),
    singleLine_eq_of_not_hidesBlank hwithout, String.toList_append, String.toList_append,
    String.toList_append, flatten_sequence hq hs]

theorem singleLine_of_link :
    IsSequence "\x1b]8; \n\u00a0x\x1b\\".toList ∧ '\x1b' ∉ "a\t".toList ∧
      HasAsciiBlanks ("a\t".toList ++ " b\x1b[ 1".toList) ∧
      singleLine ("a\t" ++ "\x1b]8; \n\u00a0x\x1b\\" ++ " b\x1b[ 1") =
        singleLine ("a\t" ++ " b\x1b[ 1") ∧
      singleLine ("a\t" ++ " b\x1b[ 1") = "a b" := by
  have hq : IsSequence "\x1b]8; \n\u00a0x\x1b\\".toList :=
    .command "8; \n\u00a0x".toList ['\x1b', '\\'] (by decide) (by decide) (.inr rfl)
  have hs : '\x1b' ∉ "a\t".toList := by decide
  have hblank : HasAsciiBlanks ("a\t".toList ++ " b\x1b[ 1".toList) := by decide +kernel
  exact ⟨hq, hs, hblank, singleLine_sequence hq hs hblank, by decide +kernel⟩

end FeedReader.Text
