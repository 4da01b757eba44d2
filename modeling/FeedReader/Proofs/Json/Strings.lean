import FeedReader.Json.Reader
import FeedReader.Proofs.Outcomes

/-!
# Where strings end

What is read of a string is the front of an input, and the same is read of every other input with
that front.  A string that makes sense is passed over alike when nobody asks for it.
-/

namespace FeedReader.Json

/-- `read` takes the front of an input for `a`, whatever follows it. -/
def Fixes {α : Type} (read : Bytes → Except Fault (α × Bytes)) (front : Bytes) (a : α) : Prop :=
  ∀ x, read (front ++ x) = .ok (a, x)

/-- The same, for every budget above the length of the input. -/
def Takes {α : Type} (read : Reader α) (front : Bytes) (a : α) : Prop :=
  ∀ x budget, (front ++ x).length < budget → read budget (front ++ x) = .ok (a, x)

/-! ## Blanks -/

theorem not_isSpace_of_skipSpace {s rest : Bytes} {b : UInt8} (h : skipSpace s = b :: rest) :
    ¬isSpace b = true := by
  have hhead := List.head?_dropWhile_not isSpace s
  rw [← skipSpace, h] at hhead
  simpa using hhead

theorem skipSpace_skipSpace (s : Bytes) : skipSpace (skipSpace s) = skipSpace s := by
  cases h : skipSpace s with
  | nil => rfl
  | cons b rest => exact List.dropWhile_cons_of_neg (not_isSpace_of_skipSpace h)

theorem skipSpace_eq_cons {s rest : Bytes} {b : UInt8} (h : skipSpace s = b :: rest) :
    ∃ blank, s = blank ++ b :: rest ∧ ∀ x, skipSpace (blank ++ b :: x) = b :: x := by
  have hb := not_isSpace_of_skipSpace h
  have hblank : ∀ c ∈ s.takeWhile isSpace, isSpace c = true :=
    List.all_eq_true.mp List.all_takeWhile
  refine ⟨s.takeWhile isSpace, ?_, fun x => ?_⟩
  · rw [← h]
    exact List.takeWhile_append_dropWhile.symm
  · rw [skipSpace, List.dropWhile_append_of_pos hblank, List.dropWhile_cons_of_neg hb]

theorem length_lt_of_skipSpace {s rest : Bytes} {b : UInt8} (h : skipSpace s = b :: rest) :
    rest.length < s.length := by
  obtain ⟨blank, rfl, -⟩ := skipSpace_eq_cons h
  rw [List.length_append, List.length_cons]
  omega

/-! ## Words -/

theorem fixes_word (expected : Bytes) : Fixes (word expected) expected () := by
  intro x
  induction expected with
  | nil => cases x <;> rfl
  | cons e expected ih => rw [List.cons_append, word, if_pos rfl, ih]

theorem eq_append_of_word {expected s rest : Bytes} (h : word expected s = .ok ((), rest)) :
    s = expected ++ rest := by
  induction expected generalizing s with
  | nil =>
      rw [word] at h
      cases h
      rfl
  | cons e expected ih =>
      cases s with
      | nil => cases h
      | cons b s =>
          rw [word] at h
          split at h
          · next heq => rw [heq, ih h, List.cons_append]
          · cases h

/-! ## Escapes -/

def IsUnit (s : Bytes) : Prop := ∃ a b c d unit, s = [a, b, c, d] ∧ hexQuad? a b c d = some unit

theorem fixes_hexUnit {s rest : Bytes} {unit : Nat} (h : hexUnit s = .ok (unit, rest)) :
    ∃ front, s = front ++ rest ∧ IsUnit front ∧ Fixes hexUnit front unit := by
  rw [hexUnit.eq_def] at h
  split at h
  · next a b c d s =>
      split at h
      · next unit' hquad =>
          cases h
          refine ⟨[a, b, c, d], rfl, ⟨a, b, c, d, _, rfl, hquad⟩, fun x => ?_⟩
          simp [hexUnit, hquad]
      · cases h
  · cases h

theorem fixes_lowUnit {high point : Nat} {s rest : Bytes} (h : lowUnit high s = .ok (point, rest)) :
    ∃ front, s = backslash :: 0x75 :: front ++ rest ∧ IsUnit front ∧
      Fixes (lowUnit high) (backslash :: 0x75 :: front) point := by
  cases s with
  | nil => cases h
  | cons a s =>
      obtain ⟨ha, hnext⟩ := ok_of_guard h
      cases s with
      | nil => cases hnext
      | cons b s =>
          obtain ⟨hb, hbind⟩ := ok_of_guard hnext
          obtain ⟨⟨low, s'⟩, hunit, hresult⟩ := ok_of_bind hbind
          obtain ⟨front, rfl, hfront, hfix⟩ := fixes_hexUnit hunit
          dsimp only at hresult
          split at hresult
          · next hlow =>
              cases hresult
              refine ⟨front, ?_, hfront, fun x => ?_⟩
              · rw [Decidable.not_not.mp ha, Decidable.not_not.mp hb, List.cons_append,
                  List.cons_append]
              · simp [lowUnit, hfix x, bind, Except.bind, pure, Except.pure, hlow]
          · cases hresult

theorem fixes_escapedPoint {s rest : Bytes} {point : Nat}
    (h : escapedPoint s = .ok (point, rest)) :
    ∃ front, s = front ++ rest ∧ Fixes escapedPoint front point ∧
      (IsUnit front ∨
        ∃ first second, front = first ++ backslash :: 0x75 :: second ∧ IsUnit first ∧
          IsUnit second) := by
  obtain ⟨⟨unit, s'⟩, hunit, hresult⟩ := ok_of_bind h
  obtain ⟨first, rfl, hfirst, hfix⟩ := fixes_hexUnit hunit
  have hpoint : ∀ x, escapedPoint (first ++ x) =
      if unit < 0xd800 || 0xdfff < unit then .ok (unit, x)
      else if unit < 0xdc00 then lowUnit unit x
      else .error .malformed := by
    intro x
    rw [escapedPoint, hfix x]
    rfl
  rw [hpoint] at h
  split at h
  · next hwhole =>
      cases h
      exact ⟨first, rfl, fun x => by rw [hpoint, if_pos hwhole], .inl hfirst⟩
  · next hhalf =>
      split at h
      · next hhigh =>
          obtain ⟨second, rfl, hsecond, hpair⟩ := fixes_lowUnit h
          refine ⟨first ++ backslash :: 0x75 :: second, (List.append_assoc ..).symm, fun x => ?_,
            .inr ⟨first, second, rfl, hfirst, hsecond⟩⟩
          rw [List.append_assoc, hpoint, if_neg hhalf, if_pos hhigh, hpair]
      · cases h

/-! ## Strings that are passed over -/

/-- The rest of a string as the grammar has it, from behind its opening quote. -/
inductive WrittenString : Bytes → Prop
  | close : WrittenString [quote]
  | plain {b : UInt8} {s : Bytes} (hquote : b ≠ quote) (hslash : b ≠ backslash)
      (hcontrol : ¬b < 0x20) (hrest : WrittenString s) : WrittenString (b :: s)
  | short {e c : UInt8} {s : Bytes} (hshort : shortEscape? e = some c)
      (hrest : WrittenString s) : WrittenString (backslash :: e :: s)
  | unit {digits s : Bytes} (hdigits : IsUnit digits) (hrest : WrittenString s) :
      WrittenString (backslash :: 0x75 :: (digits ++ s))

theorem skipString_cons (budget : Nat) (b : UInt8) (s : Bytes) :
    skipString (budget + 1) (b :: s) =
      if b = quote then .ok ((), s)
      else if b = backslash then
        match s with
        | [] => .error .truncated
        | e :: s =>
            if e = 0x75 then
              match hexUnit s with
              | .ok (_, s) => skipString budget s
              | .error fault => .error fault
            else if (shortEscape? e).isSome then skipString budget s
            else .error .malformed
      else if b < 0x20 then .error .malformed
      else skipString budget s := by
  rfl

def isPlain (b : UInt8) : Bool := b ≠ quote && b ≠ backslash && 0x20 ≤ b

theorem WrittenString.of_plain {s : Bytes} (h : s.all isPlain = true) :
    WrittenString (s ++ [quote]) := by
  induction s with
  | nil => exact .close
  | cons b s ih =>
      rw [List.all_cons, Bool.and_eq_true] at h
      have hb : (b ≠ quote ∧ b ≠ backslash) ∧ 0x20 ≤ b := by simpa [isPlain] using h.1
      exact .plain hb.1.1 hb.1.2 (UInt8.not_lt.mpr hb.2) (ih h.2)

theorem WrittenString.takes {s : Bytes} (h : WrittenString s) : Takes skipString s () := by
  intro x budget hbudget
  induction h generalizing budget with
  | close =>
      obtain ⟨budget, rfl⟩ := Nat.exists_eq_add_one.mpr (Nat.zero_lt_of_lt hbudget)
      rfl
  | plain hquote hslash hcontrol _ ih =>
      obtain ⟨budget, rfl⟩ := Nat.exists_eq_add_one.mpr (Nat.zero_lt_of_lt hbudget)
      rw [List.cons_append, skipString_cons, if_neg hquote, if_neg hslash, if_neg hcontrol]
      exact ih budget (Nat.lt_of_succ_lt_succ hbudget)
  | @short e c s hshort _ ih =>
      have he : e ≠ 0x75 := by
        rintro rfl
        cases hshort
      obtain ⟨budget, rfl⟩ := Nat.exists_eq_add_one.mpr (Nat.zero_lt_of_lt hbudget)
      rw [List.cons_append, List.cons_append, skipString_cons, if_neg (by decide), if_pos rfl]
      simp only [if_neg he, hshort, Option.isSome_some, if_true]
      refine ih budget ?_
      simp only [List.cons_append, List.length_cons] at hbudget
      omega
  | @unit digits s hdigits _ ih =>
      obtain ⟨a, b, c, d, unit, rfl, hquad⟩ := hdigits
      obtain ⟨budget, rfl⟩ := Nat.exists_eq_add_one.mpr (Nat.zero_lt_of_lt hbudget)
      rw [List.cons_append, List.cons_append, skipString_cons, if_neg (by decide), if_pos rfl]
      simp only [if_true, List.cons_append, List.nil_append, hexUnit, hquad]
      refine ih budget ?_
      simp only [List.cons_append, List.nil_append, List.length_cons] at hbudget
      omega

theorem skipString_eq_ok {s rest : Bytes} {budget : Nat}
    (h : skipString budget s = .ok ((), rest)) :
    ∃ front, s = front ++ rest ∧ WrittenString front := by
  induction budget generalizing s with
  | zero => cases h
  | succ budget ih =>
      cases s with
      | nil => cases h
      | cons b s =>
          rw [skipString_cons] at h
          by_cases hquote : b = quote
          · rw [if_pos hquote] at h
            cases h
            exact ⟨[quote], by rw [hquote, List.singleton_append], .close⟩
          rw [if_neg hquote] at h
          by_cases hslash : b = backslash
          · rw [if_pos hslash] at h
            subst hslash
            cases s with
            | nil => cases h
            | cons e s =>
                dsimp only at h
                split at h
                · next hunit =>
                    subst hunit
                    split at h
                    · next unit s' hread =>
                        obtain ⟨digits, rfl, hdigits, -⟩ := fixes_hexUnit hread
                        obtain ⟨front, rfl, hfront⟩ := ih h
                        exact ⟨_, by simp, .unit hdigits hfront⟩
                    · cases h
                · split at h
                  · next hshort =>
                      obtain ⟨c, hc⟩ := Option.isSome_iff_exists.mp hshort
                      obtain ⟨front, rfl, hfront⟩ := ih h
                      exact ⟨backslash :: e :: front, rfl, .short hc hfront⟩
                  · cases h
          · rw [if_neg hslash] at h
            obtain ⟨hcontrol, hrest⟩ := ok_of_guard h
            obtain ⟨front, rfl, hfront⟩ := ih hrest
            exact ⟨b :: front, rfl, .plain hquote hslash hcontrol hfront⟩

/-! ## Strings that are read -/

structure Piece (front meaning : Bytes) : Prop where
  ne_nil : front ≠ []
  reads : ∀ read budget x,
    stringBytes read (budget + 1) (front ++ x) = stringBytes (meaning.reverse ++ read) budget x
  written : ∀ {s}, WrittenString s → WrittenString (front ++ s)

theorem stringBytes_cons (read : Bytes) (budget : Nat) (b : UInt8) (s : Bytes) :
    stringBytes read (budget + 1) (b :: s) =
      if b = quote then .ok (read.reverse, s)
      else if b = backslash then
        match s with
        | [] => .error .truncated
        | e :: s =>
            if e = 0x75 then
              match escapedPoint s with
              | .ok (point, s) => stringBytes ((Text.encodePoint point).reverse ++ read) budget s
              | .error fault => .error fault
            else
              match shortEscape? e with
              | some c => stringBytes (c :: read) budget s
              | none => .error .malformed
      else if b < 0x20 then .error .malformed
      else stringBytes (b :: read) budget s := by
  rfl

theorem piece_plain {b : UInt8} (hquote : b ≠ quote) (hslash : b ≠ backslash)
    (hcontrol : ¬b < 0x20) : Piece [b] [b] where
  ne_nil := List.cons_ne_nil _ _
  reads read budget x := by
    rw [List.singleton_append, stringBytes_cons, if_neg hquote, if_neg hslash, if_neg hcontrol]
    rfl
  written := .plain hquote hslash hcontrol

theorem piece_short {e c : UInt8} (h : shortEscape? e = some c) : Piece [backslash, e] [c] where
  ne_nil := List.cons_ne_nil _ _
  reads read budget x := by
    have he : e ≠ 0x75 := by
      rintro rfl
      cases h
    rw [List.cons_append, List.singleton_append, stringBytes_cons, if_neg (by decide), if_pos rfl]
    simp [he, h]
  written := .short h

theorem piece_point {s rest : Bytes} {point : Nat} (h : escapedPoint s = .ok (point, rest)) :
    ∃ front, s = front ++ rest ∧ Piece (backslash :: 0x75 :: front) (Text.encodePoint point) := by
  obtain ⟨front, rfl, hpoint, hunits⟩ := fixes_escapedPoint h
  refine ⟨front, rfl, List.cons_ne_nil _ _, fun read budget x => ?_, fun hrest => ?_⟩
  · rw [List.cons_append, List.cons_append, stringBytes_cons, if_neg (by decide), if_pos rfl]
    simp [hpoint x]
  · obtain hunit | ⟨first, second, rfl, hfirst, hsecond⟩ := hunits
    · exact .unit hunit hrest
    · rw [List.cons_append, List.cons_append, List.append_assoc]
      exact .unit hfirst (.unit hsecond hrest)

theorem stringBytes_cases {read value s rest : Bytes} {budget : Nat}
    (h : stringBytes read (budget + 1) s = .ok (value, rest)) :
    (s = quote :: rest ∧ value = read.reverse) ∨
      ∃ front meaning s', s = front ++ s' ∧ Piece front meaning ∧
        stringBytes (meaning.reverse ++ read) budget s' = .ok (value, rest) := by
  cases s with
  | nil => cases h
  | cons b s =>
      rw [stringBytes_cons] at h
      by_cases hquote : b = quote
      · rw [if_pos hquote] at h
        cases h
        exact .inl ⟨by rw [hquote], rfl⟩
      rw [if_neg hquote] at h
      refine .inr ?_
      by_cases hslash : b = backslash
      · rw [if_pos hslash] at h
        cases s with
        | nil => cases h
        | cons e s =>
            dsimp only at h
            split at h
            · next hunit =>
                split at h
                · next point s' hpoint =>
                    obtain ⟨front, rfl, hpiece⟩ := piece_point hpoint
                    exact ⟨_, _, s', by rw [hslash, hunit, List.cons_append, List.cons_append],
                      hpiece, h⟩
                · cases h
            · split at h
              · next c hshort =>
                  exact ⟨_, _, s, by rw [hslash]; rfl, piece_short hshort, h⟩
              · cases h
      · rw [if_neg hslash] at h
        obtain ⟨hcontrol, h⟩ := ok_of_guard h
        exact ⟨_, _, s, rfl, piece_plain hquote hslash hcontrol, h⟩

theorem takes_stringBytes {read value s rest : Bytes} {budget : Nat}
    (h : stringBytes read budget s = .ok (value, rest)) :
    ∃ front, s = front ++ rest ∧ Takes (stringBytes read) front value ∧ WrittenString front := by
  induction budget generalizing read s with
  | zero => cases h
  | succ budget ih =>
      obtain ⟨rfl, rfl⟩ | ⟨front, meaning, s', rfl, hpiece, hrest⟩ := stringBytes_cases h
      · refine ⟨[quote], rfl, fun x budget hbudget => ?_, .close⟩
        obtain ⟨budget, rfl⟩ := Nat.exists_eq_add_one.mpr (Nat.zero_lt_of_lt hbudget)
        rfl
      · obtain ⟨front', rfl, hreads, hwritten⟩ := ih hrest
        refine ⟨front ++ front', (List.append_assoc ..).symm, fun x budget hbudget => ?_,
          hpiece.written hwritten⟩
        rw [List.append_assoc] at hbudget ⊢
        have hfront := List.length_pos_iff.mpr hpiece.ne_nil
        obtain ⟨budget, rfl⟩ := Nat.exists_eq_add_one.mpr (Nat.zero_lt_of_lt hbudget)
        rw [hpiece.reads]
        refine hreads x budget ?_
        rw [List.length_append] at hbudget
        omega

theorem takes_stringTail {text : String} {s rest : Bytes} {budget : Nat}
    (h : stringTail budget s = .ok (text, rest)) :
    ∃ front, s = front ++ rest ∧ Takes stringTail front text ∧ WrittenString front := by
  obtain ⟨⟨bytes, s'⟩, hbytes, hresult⟩ := ok_of_bind h
  obtain ⟨front, rfl, hreads, hwritten⟩ := takes_stringBytes hbytes
  dsimp only at hresult
  split at hresult
  · next text' htext =>
      cases hresult
      refine ⟨front, rfl, fun x budget hbudget => ?_, hwritten⟩
      simp [stringTail, hreads x budget hbudget, bind, Except.bind, pure, Except.pure, htext]
  · cases hresult

end FeedReader.Json
