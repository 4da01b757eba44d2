import FeedReader.Keys.Key
import Mathlib.Tactic.IntervalCases

/-!
# Texts of keys

Settings may write a key in several ways, the help screen shows it in one.  The keys that settings
can name are listed here, and for each of them the text on the help screen is one of the ways to
write it.  So what is shown can be typed into the settings, and tells keys apart.
-/

namespace FeedReader.Keys

/-! ## Reading one character -/

theorem trimmed_eq_self {s : List Char} (hfirst : ∀ c ∈ s.head?, Text.isBlank c = false)
    (hlast : ∀ c ∈ s.getLast?, Text.isBlank c = false) : Text.trimmed s = s := by
  have hkeep : ∀ t : List Char, (∀ c ∈ t.head?, Text.isBlank c = false) →
      t.dropWhile Text.isBlank = t := by
    intro t ht
    cases t with
    | nil => rfl
    | cons c t => exact List.dropWhile_cons_of_neg (by simp [ht c rfl])
  rw [← List.head?_reverse] at hlast
  rw [Text.trimmed, hkeep s hfirst, hkeep s.reverse hlast, List.reverse_reverse]

theorem trimmed_singleton {c : Char} (hc : Text.isBlank c = false) : Text.trimmed [c] = [c] :=
  trimmed_eq_self (by simpa using hc) (by simpa using hc)

theorem not_isBlank_of_trimmed {s : List Char} {c : Char} (h : Text.trimmed s = [c]) :
    Text.isBlank c = false := by
  rw [Text.trimmed, List.reverse_eq_iff, List.reverse_singleton] at h
  have hhead := List.head?_dropWhile_not Text.isBlank (s.dropWhile Text.isBlank).reverse
  rw [h] at hhead
  exact hhead

theorem single?_eq_some_iff {s : List Char} {c : Char} : single? s = some c ↔ s = [c] := by
  unfold single?
  split <;> simp_all

theorem length_of_codeNamed? {name : String} {code : KeyCode} (h : codeNamed? name = some code) :
    1 < name.length := by
  unfold codeNamed? at h
  split at h
  any_goals decide
  cases h

theorem codeNamed?_foldName_singleton (c : Char) : codeNamed? (foldName [c]) = none := by
  cases hnamed : codeNamed? (foldName [c]) with
  | none => rfl
  | some code =>
      have hlength := length_of_codeNamed? hnamed
      simp [foldName] at hlength

theorem functionNumber?_singleton (c : Char) : functionNumber? [c] = none := by
  unfold functionNumber?
  split
  · next hs =>
      obtain ⟨-, rfl⟩ := List.cons.inj hs
      rfl
  · next hs =>
      obtain ⟨-, rfl⟩ := List.cons.inj hs
      rfl
  · rfl

theorem plainKey?_singleton (c : Char) : plainKey? [c] = some { code := .char c } := by
  rw [plainKey?, codeNamed?_foldName_singleton, functionNumber?_singleton]
  rfl

/-! ## Keys that settings can name -/

inductive IsNameable : Key → Prop where
  | char {c : Char} (hc : Text.isBlank c = false) : IsNameable { code := .char c }
  | control {c : Char} (hc : Text.isBlank c = false) : IsNameable { code := .char c, ctrl := true }
  | named {name : String} {code : KeyCode} (hname : codeNamed? name = some code) :
      IsNameable { code }
  | function {n : Nat} (hfirst : 1 ≤ n) (hlast : n ≤ 12) : IsNameable { code := .function n }

theorem isNameable_of_plainKey? {text : String} {k : Key}
    (h : plainKey? (Text.trimmed text.toList) = some k) : IsNameable k := by
  rw [plainKey?] at h
  split at h
  · next code hname =>
      cases h
      exact .named hname
  · split at h
    · split at h
      · next hbounds =>
          cases h
          exact .function hbounds.1 hbounds.2
      · cases h
    · obtain ⟨c, hsingle, rfl⟩ := Option.map_eq_some_iff.mp h
      exact .char (not_isBlank_of_trimmed (single?_eq_some_iff.mp hsingle))

theorem isNameable_of_parseKey? {text : String} {k : Key} (h : parseKey? text = some k) :
    IsNameable k := by
  rw [parseKey?] at h
  split at h
  · obtain ⟨c, hsingle, rfl⟩ := Option.map_eq_some_iff.mp h
    exact .control (not_isBlank_of_trimmed (single?_eq_some_iff.mp hsingle))
  · exact isNameable_of_plainKey? h

/-! ## Reading what is shown -/

theorem parseKey?_text_char {c : Char} (hc : Text.isBlank c = false) :
    parseKey? (Key.text { code := .char c }) = some { code := .char c } := by
  have hspace : c ≠ ' ' := by
    rintro rfl
    cases hc
  have htext : (Key.text { code := .char c }).toList = [c] := by
    simp [Key.text, KeyCode.name, hspace]
  rw [parseKey?, htext, trimmed_singleton hc]
  split
  · next hs => simp at hs
  · exact plainKey?_singleton c

theorem parseKey?_text_control {c : Char} (hc : Text.isBlank c = false) :
    parseKey? (Key.text { code := .char c, ctrl := true }) =
      some { code := .char c, ctrl := true } := by
  have hspace : c ≠ ' ' := by
    rintro rfl
    cases hc
  have htext : (Key.text { code := .char c, ctrl := true }).toList =
      ['C', 't', 'r', 'l', '+', c] := by
    simp [Key.text, KeyCode.name, hspace]
  have hfirst : Text.isBlank 'C' = false := by decide
  have htrimmed : Text.trimmed ['C', 't', 'r', 'l', '+', c] = ['C', 't', 'r', 'l', '+', c] :=
    trimmed_eq_self (by simpa using hfirst) (by simpa using hc)
  rw [parseKey?, htext, htrimmed]
  change (single? (Text.trimmed [c])).map _ = _
  rw [trimmed_singleton hc]
  rfl

theorem parseKey?_text_named {name : String} {code : KeyCode} (h : codeNamed? name = some code) :
    parseKey? (Key.text { code }) = some { code } := by
  unfold codeNamed? at h
  split at h
  all_goals cases h
  all_goals decide

theorem parseKey?_text_function {n : Nat} (hfirst : 1 ≤ n) (hlast : n ≤ 12) :
    parseKey? (Key.text { code := .function n }) = some { code := .function n } := by
  interval_cases n <;> decide

theorem IsNameable.parseKey?_text {k : Key} (h : IsNameable k) : parseKey? k.text = some k := by
  cases h with
  | char hc => exact parseKey?_text_char hc
  | control hc => exact parseKey?_text_control hc
  | named hname => exact parseKey?_text_named hname
  | function hfirst hlast => exact parseKey?_text_function hfirst hlast

theorem isNameable_iff {k : Key} : IsNameable k ↔ ∃ text, parseKey? text = some k := by
  constructor
  · intro h
    exact ⟨k.text, h.parseKey?_text⟩
  · rintro ⟨text, h⟩
    exact isNameable_of_parseKey? h

/--
Every key that settings can name is read back from its text on the help screen, and no other such
key is shown in the same way.
-/
theorem text_read_back {text : String} {k : Key} (h : parseKey? text = some k) :
    parseKey? k.text = some k ∧
      ∀ other k', parseKey? other = some k' → k.text = k'.text → k = k' := by
  have hback := (isNameable_iff.mpr ⟨text, h⟩).parseKey?_text
  refine ⟨hback, ?_⟩
  intro other k' h' hsame
  have hback' := (isNameable_iff.mpr ⟨other, h'⟩).parseKey?_text
  rw [hsame, hback'] at hback
  exact (Option.some.inj hback).symm

theorem text_read_back_of_signed_number :
    let k : Key := { code := .function 7 }
    parseKey? "\tf+07 " = some k ∧ k.text = "F7" ∧ parseKey? k.text = some k ∧
      ∀ ctrl, k.text ≠ ({ code := .char 'F', ctrl } : Key).text := by
  intro k
  have h : parseKey? "\tf+07 " = some k := by decide
  obtain ⟨hback, happart⟩ := text_read_back h
  refine ⟨h, by decide, hback, ?_⟩
  intro ctrl hsame
  have hother : parseKey? (if ctrl then " Ctrl+ F" else "F ") =
      some { code := .char 'F', ctrl } := by
    cases ctrl <;> decide
  have hcode : KeyCode.function 7 = KeyCode.char 'F' :=
    congrArg Key.code (happart _ _ hother hsame)
  cases hcode

end FeedReader.Keys
