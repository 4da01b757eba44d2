import FeedReader.Proofs.Json.Strings

/-!
# Where numbers end

A number depends on what follows it, but only on that it is not more of the number.  A number
that is a count has no fraction and no exponent; it is passed over like any other.
-/

namespace FeedReader.Json

def continuesNumber (b : UInt8) : Bool := isDigit b || b = 0x2e || b = 0x65 || b = 0x45

def EndsNumber (s : Bytes) : Prop := ∀ b, s.head? = some b → continuesNumber b = false

def NoDigit (s : Bytes) : Prop := s.head?.any isDigit = false

theorem endsNumber_nil : EndsNumber [] := fun _ h => nomatch h

theorem endsNumber_cons {b : UInt8} {s : Bytes} (h : continuesNumber b = false) :
    EndsNumber (b :: s) := by
  rintro _ ⟨⟩
  exact h

theorem EndsNumber.append {front rest x : Bytes} (h : EndsNumber (front ++ rest))
    (hx : EndsNumber x) : EndsNumber (front ++ x) := by
  cases front with
  | nil => exact hx
  | cons b front => exact endsNumber_cons (h b rfl)

theorem EndsNumber.noDigit {s : Bytes} (h : EndsNumber s) : NoDigit s := by
  cases s with
  | nil => rfl
  | cons b s =>
      have hb := h b rfl
      simp only [continuesNumber, Bool.or_eq_false_iff] at hb
      exact hb.1.1.1

theorem EndsNumber.no_point {s : Bytes} (h : EndsNumber s) : s.head? ≠ some 0x2e := by
  intro hhead
  exact absurd (h _ hhead) (by decide)

theorem dropWhile_isDigit_append {digits x : Bytes} (hdigits : ∀ d ∈ digits, isDigit d = true)
    (hx : NoDigit x) : (digits ++ x).dropWhile isDigit = x := by
  rw [List.dropWhile_append_of_pos hdigits]
  cases x with
  | nil => rfl
  | cons b x =>
      rw [NoDigit, List.head?_cons, Option.any_some] at hx
      rw [List.dropWhile_cons_of_neg (by simp [hx])]

def IsDigits (s : Bytes) : Prop := s ≠ [] ∧ ∀ d ∈ s, isDigit d = true

theorem IsDigits.exists_head {s : Bytes} (h : IsDigits s) :
    ∃ d rest, s = d :: rest ∧ isDigit d = true := by
  cases s with
  | nil => exact absurd rfl h.1
  | cons d rest => exact ⟨d, rest, rfl, h.2 d List.mem_cons_self⟩

theorem skipDigits1_eq_ok {s rest : Bytes} (h : skipDigits1 s = .ok ((), rest)) :
    ∃ digits, s = digits ++ rest ∧ IsDigits digits := by
  rw [skipDigits1] at h
  split at h
  · next hhead =>
      cases h
      refine ⟨s.takeWhile isDigit, List.takeWhile_append_dropWhile.symm, ?_,
        List.all_eq_true.mp List.all_takeWhile⟩
      cases s with
      | nil => cases hhead
      | cons b s =>
          rw [List.takeWhile_cons_of_pos (by simpa using hhead)]
          exact List.cons_ne_nil _ _
  · cases h

theorem skipDigits1_append {digits x : Bytes} (h : IsDigits digits) (hx : NoDigit x) :
    skipDigits1 (digits ++ x) = .ok ((), x) := by
  rw [skipDigits1, dropWhile_isDigit_append h.2 hx, if_pos]
  obtain ⟨d, rest, rfl, hd⟩ := h.exists_head
  exact hd

/-! A number that is passed over has a whole part, a fraction and an exponent. -/

def skipWhole (s : Bytes) : Except Fault (Unit × Bytes) :=
  match s with
  | 0x30 :: s => if s.head?.any isDigit then .error .malformed else .ok ((), s)
  | s => skipDigits1 s

def skipFraction (s : Bytes) : Except Fault (Unit × Bytes) :=
  match s with
  | 0x2e :: s => skipDigits1 s
  | s => .ok ((), s)

def afterSign (s : Bytes) : Bytes :=
  match s with
  | 0x2b :: s | 0x2d :: s => s
  | s => s

def skipExponent (s : Bytes) : Except Fault (Unit × Bytes) :=
  match s with
  | 0x65 :: s | 0x45 :: s => skipDigits1 (afterSign s)
  | s => .ok ((), s)

theorem skipWhole_of_ne {s : Bytes} (h : s.head? ≠ some 0x30) : skipWhole s = skipDigits1 s := by
  unfold skipWhole
  split
  · exact absurd rfl h
  · rfl

theorem skipFraction_of_ne {s : Bytes} (h : s.head? ≠ some 0x2e) :
    skipFraction s = .ok ((), s) := by
  unfold skipFraction
  split
  · exact absurd rfl h
  · rfl

theorem skipNumber_eq (s : Bytes) :
    skipNumber s =
      (skipWhole s).bind fun r => (skipFraction r.2).bind fun r => skipExponent r.2 := by
  unfold skipNumber
  dsimp only
  split
  · next s =>
      change _ = (if s.head?.any isDigit then Except.error Fault.malformed
        else Except.ok ((), s)).bind _
      split
      · rfl
      · change _ = (skipFraction s).bind _
        dsimp only [bind, Except.bind, pure, Except.pure]
        split
        · rfl
        · next hpoint =>
            rw [skipFraction_of_ne fun h => (List.head?_eq_some_iff.mp h).elim hpoint]
            rfl
  · next hzero =>
      rw [skipWhole_of_ne fun h => (List.head?_eq_some_iff.mp h).elim hzero]
      cases skipDigits1 s with
      | error e => rfl
      | ok r =>
          change _ = (skipFraction r.2).bind _
          dsimp only [bind, Except.bind, pure, Except.pure]
          split
          · next hr =>
              rw [hr]
              rfl
          · next hpoint =>
              rw [skipFraction_of_ne fun h => (List.head?_eq_some_iff.mp h).elim hpoint]
              rfl

theorem skipExponent_of_ne {s : Bytes} (h : ∀ b, s.head? = some b → b ≠ 0x65 ∧ b ≠ 0x45) :
    skipExponent s = .ok ((), s) := by
  unfold skipExponent
  split
  · exact absurd rfl (h _ rfl).1
  · exact absurd rfl (h _ rfl).2
  · rfl

structure IsNumber (whole fraction exponent : Bytes) : Prop where
  digits : IsDigits whole
  zero : whole.head? = some 0x30 → whole = [0x30]
  point : fraction = [] ∨ ∃ digits, fraction = 0x2e :: digits ∧ IsDigits digits
  mark : exponent = [] ∨ ∃ mark sign digits, exponent = mark :: (sign ++ digits) ∧
    (mark = 0x65 ∨ mark = 0x45) ∧ (sign = [] ∨ sign = [0x2b] ∨ sign = [0x2d]) ∧ IsDigits digits

theorem skipWhole_eq_ok {s rest : Bytes} (h : skipWhole s = .ok ((), rest)) :
    ∃ whole, s = whole ++ rest ∧ IsDigits whole ∧
      (whole.head? = some 0x30 → whole = [0x30]) := by
  by_cases hzero : s.head? = some 0x30
  · obtain ⟨s, rfl⟩ := List.head?_eq_some_iff.mp hzero
    obtain ⟨-, hrest⟩ := ok_of_guard h
    cases hrest
    exact ⟨[0x30], rfl, ⟨List.cons_ne_nil _ _, List.forall_mem_singleton.mpr rfl⟩, fun _ => rfl⟩
  · rw [skipWhole_of_ne hzero] at h
    obtain ⟨whole, rfl, hwhole⟩ := skipDigits1_eq_ok h
    obtain ⟨d, digits, rfl, -⟩ := hwhole.exists_head
    exact ⟨d :: digits, rfl, hwhole, fun hhead => absurd hhead hzero⟩

theorem skipFraction_eq_ok {s rest : Bytes} (h : skipFraction s = .ok ((), rest)) :
    ∃ fraction, s = fraction ++ rest ∧
      (fraction = [] ∨ ∃ digits, fraction = 0x2e :: digits ∧ IsDigits digits) := by
  by_cases hpoint : s.head? = some 0x2e
  · obtain ⟨s, rfl⟩ := List.head?_eq_some_iff.mp hpoint
    obtain ⟨digits, rfl, hdigits⟩ := skipDigits1_eq_ok (s := s) h
    exact ⟨0x2e :: digits, rfl, .inr ⟨digits, rfl, hdigits⟩⟩
  · rw [skipFraction_of_ne hpoint] at h
    cases h
    exact ⟨[], rfl, .inl rfl⟩

theorem afterSign_of_digit {d : UInt8} (h : isDigit d = true) (x : Bytes) :
    afterSign (d :: x) = d :: x := by
  unfold afterSign
  split
  · next heq => cases heq; cases h
  · next heq => cases heq; cases h
  · rfl

theorem exists_sign (s : Bytes) :
    ∃ sign, s = sign ++ afterSign s ∧ (sign = [] ∨ sign = [0x2b] ∨ sign = [0x2d]) := by
  unfold afterSign
  split
  · exact ⟨[0x2b], rfl, .inr (.inl rfl)⟩
  · exact ⟨[0x2d], rfl, .inr (.inr rfl)⟩
  · exact ⟨[], rfl, .inl rfl⟩

theorem skipExponent_mark {b : UInt8} (hb : b = 0x65 ∨ b = 0x45) (s : Bytes) :
    skipExponent (b :: s) = skipDigits1 (afterSign s) := by
  obtain rfl | rfl := hb <;> rfl

theorem skipExponent_eq_ok {s rest : Bytes} (h : skipExponent s = .ok ((), rest)) :
    ∃ exponent, s = exponent ++ rest ∧
      (exponent = [] ∨ ∃ mark sign digits, exponent = mark :: (sign ++ digits) ∧
        (mark = 0x65 ∨ mark = 0x45) ∧ (sign = [] ∨ sign = [0x2b] ∨ sign = [0x2d]) ∧
        IsDigits digits) := by
  by_cases hmark : ∀ b, s.head? = some b → b ≠ 0x65 ∧ b ≠ 0x45
  · rw [skipExponent_of_ne hmark] at h
    cases h
    exact ⟨[], rfl, .inl rfl⟩
  · obtain ⟨b, hhead, hb⟩ : ∃ b, s.head? = some b ∧ (b = 0x65 ∨ b = 0x45) := by
      grind
    obtain ⟨s, rfl⟩ := List.head?_eq_some_iff.mp hhead
    rw [skipExponent_mark hb] at h
    obtain ⟨digits, hafter, hdigits⟩ := skipDigits1_eq_ok h
    obtain ⟨sign, hs, hsign⟩ := exists_sign s
    refine ⟨b :: (sign ++ digits), ?_, .inr ⟨b, sign, digits, rfl, hb, hsign, hdigits⟩⟩
    rw [List.cons_append, List.append_assoc, ← hafter, ← hs]

namespace IsNumber

variable {whole fraction exponent x : Bytes}

theorem skipWhole (h : IsNumber whole fraction exponent) (hx : NoDigit x) :
    skipWhole (whole ++ x) = .ok ((), x) := by
  by_cases hhead : whole.head? = some 0x30
  · rw [h.zero hhead]
    change (if x.head?.any isDigit then Except.error Fault.malformed else Except.ok ((), x)) = _
    rw [hx, if_neg Bool.false_ne_true]
  · have hhead' : (whole ++ x).head? ≠ some 0x30 := by
      obtain ⟨d, rest, rfl, -⟩ := h.digits.exists_head
      exact hhead
    rw [skipWhole_of_ne hhead', skipDigits1_append h.digits hx]

theorem skipFraction (h : IsNumber whole fraction exponent) (hx : NoDigit x)
    (hpoint : x.head? ≠ some 0x2e) : skipFraction (fraction ++ x) = .ok ((), x) := by
  obtain rfl | ⟨digits, rfl, hdigits⟩ := h.point
  · exact skipFraction_of_ne hpoint
  · exact skipDigits1_append hdigits hx

theorem skipExponent (h : IsNumber whole fraction exponent) (hx : EndsNumber x) :
    skipExponent (exponent ++ x) = .ok ((), x) := by
  obtain rfl | ⟨mark, sign, digits, rfl, hmark, hsign, hdigits⟩ := h.mark
  · refine skipExponent_of_ne fun b hb => ?_
    have hends := hx b hb
    simp only [continuesNumber, Bool.or_eq_false_iff, decide_eq_false_iff_not] at hends
    exact ⟨hends.1.2, hends.2⟩
  · have hafter : afterSign (sign ++ (digits ++ x)) = digits ++ x := by
      obtain ⟨d, rest, rfl, hd⟩ := hdigits.exists_head
      obtain rfl | rfl | rfl := hsign
      · exact afterSign_of_digit hd _
      · rfl
      · rfl
    rw [List.cons_append, skipExponent_mark hmark, List.append_assoc, hafter,
      skipDigits1_append hdigits hx.noDigit]

theorem skipNumber (h : IsNumber whole fraction exponent) (hx : EndsNumber x) :
    skipNumber (whole ++ (fraction ++ (exponent ++ x))) = .ok ((), x) := by
  have hafterFraction : NoDigit (exponent ++ x) ∧ (exponent ++ x).head? ≠ some 0x2e := by
    obtain rfl | ⟨mark, sign, digits, rfl, rfl | rfl, -⟩ := h.mark
    · exact ⟨hx.noDigit, hx.no_point⟩
    · exact ⟨rfl, by simp⟩
    · exact ⟨rfl, by simp⟩
  have hafterWhole : NoDigit (fraction ++ (exponent ++ x)) := by
    obtain rfl | ⟨digits, rfl, -⟩ := h.point
    · exact hafterFraction.1
    · rfl
  rw [skipNumber_eq, h.skipWhole hafterWhole]
  simp only [Except.bind]
  rw [h.skipFraction hafterFraction.1 hafterFraction.2]
  exact h.skipExponent hx

end IsNumber

theorem skipNumber_eq_ok {s rest : Bytes} (h : skipNumber s = .ok ((), rest)) :
    ∃ front, s = front ++ rest ∧ front ≠ [] ∧
      ∀ x, EndsNumber x → skipNumber (front ++ x) = .ok ((), x) := by
  rw [skipNumber_eq] at h
  obtain ⟨⟨⟨⟩, s₁⟩, h₁, hbind⟩ := ok_of_bind h
  obtain ⟨⟨⟨⟩, s₂⟩, h₂, h₃⟩ := ok_of_bind hbind
  obtain ⟨whole, rfl, hwhole, hzero⟩ := skipWhole_eq_ok h₁
  obtain ⟨fraction, rfl, hfraction⟩ := skipFraction_eq_ok h₂
  obtain ⟨exponent, rfl, hexponent⟩ := skipExponent_eq_ok h₃
  have hnumber : IsNumber whole fraction exponent := ⟨hwhole, hzero, hfraction, hexponent⟩
  refine ⟨whole ++ (fraction ++ exponent), by simp, by simp [hwhole.1], fun x hx => ?_⟩
  rw [List.append_assoc, List.append_assoc]
  exact hnumber.skipNumber hx

/-! A number that is a count has a whole part only. -/

theorem other_of_check {x : Scaled} {s : Bytes} {r : Number × Bytes} (h : x.check s = .ok r) :
    r.1 = .other := by
  obtain ⟨-, hr⟩ := ok_of_guard h
  cases hr
  rfl

theorem other_of_exponentTail {x : Scaled} {s : Bytes} {r : Number × Bytes}
    (h : exponentTail x s = .ok r) : r.1 = .other := by
  unfold exponentTail at h
  split at h
  split at h
  · cases h
  · replace h := (ok_of_guard h).2
    split at h
    · exact other_of_check h
    · exact other_of_check h
    · cases h; rfl
    · split at h
      · cases h; rfl
      · cases h

theorem other_of_scaleTail {x : Scaled} {s : Bytes} {r : Number × Bytes}
    (h : scaleTail x s = .ok r) : r.1 = .other := by
  unfold scaleTail at h
  split at h
  · exact other_of_exponentTail h
  · exact other_of_exponentTail h
  · exact other_of_check h

theorem other_of_fractionTail {x : Scaled} {s : Bytes} {r : Number × Bytes}
    (h : fractionTail x s = .ok r) : r.1 = .other := by
  unfold fractionTail at h
  split at h
  · cases h
  · exact other_of_scaleTail (ok_of_guard h).2

theorem addDigits_append {significand : Nat} {s : Bytes} :
    ∃ digits, s = digits ++ (addDigits significand s).2 ∧ (∀ d ∈ digits, isDigit d = true) ∧
      ∀ x, NoDigit x →
        addDigits significand (digits ++ x) = ((addDigits significand s).1, x) := by
  have hend : ∀ x n, NoDigit x → addDigits n x = (n, x) := by
    intro x n hx
    cases x with
    | nil => rfl
    | cons b x =>
        rw [NoDigit, List.head?_cons, Option.any_some] at hx
        rw [addDigits, hx, Bool.false_and, if_neg Bool.false_ne_true]
  induction s generalizing significand with
  | nil => exact ⟨[], rfl, List.forall_mem_nil _, fun x hx => hend x significand hx⟩
  | cons b s ih =>
      by_cases hmore : (isDigit b && significand * 10 + (b.toNat - 0x30) < UInt64.size) = true
      · have hstep : ∀ x, addDigits significand (b :: x) =
            addDigits (significand * 10 + (b.toNat - 0x30)) x := fun x => if_pos hmore
        obtain ⟨digits, hs, hall, hread⟩ := @ih (significand * 10 + (b.toNat - 0x30))
        refine ⟨b :: digits, ?_, List.forall_mem_cons.mpr ⟨?_, hall⟩, fun x hx => ?_⟩
        · rw [hstep, List.cons_append, ← hs]
        · exact (Bool.and_eq_true_iff.mp hmore).1
        · rw [List.cons_append, hstep, hstep, hread x hx]
      · have hstep : addDigits significand (b :: s) = (significand, b :: s) := if_neg hmore
        refine ⟨[], ?_, List.forall_mem_nil _, fun x hx => ?_⟩ <;> rw [hstep]
        · rfl
        · exact hend x significand hx

def numberEnd (positive : Bool) (x : Scaled) (s : Bytes) : Except Fault (Number × Bytes) :=
  match s with
  | 0x2e :: s => fractionTail x s
  | 0x65 :: s | 0x45 :: s => exponentTail x s
  | s => if x.exponent = 0 then .ok (if positive then .count x.significand else .other, s)
      else x.check s

theorem numberTail_cons {positive : Bool} {b : UInt8} {s : Bytes} (hb : isDigit b = true)
    (hzero : ¬(b = 0x30 && s.head?.any isDigit) = true) :
    numberTail positive (b :: s) =
      numberEnd positive
        ⟨(addDigits 0 (b :: s)).1, ((addDigits 0 (b :: s)).2.takeWhile isDigit).length⟩
        ((addDigits 0 (b :: s)).2.dropWhile isDigit) := by
  rw [numberTail, if_neg (by simp [hb]), if_neg hzero]
  rfl

theorem numberEnd_eq_ok {positive : Bool} {x : Scaled} {n : Nat} {s rest : Bytes}
    (h : numberEnd positive x s = .ok (.count n, rest)) :
    positive = true ∧ n = x.significand ∧ x.exponent = 0 ∧ rest = s := by
  unfold numberEnd at h
  split at h
  · exact absurd (other_of_fractionTail h) (by simp)
  · exact absurd (other_of_exponentTail h) (by simp)
  · exact absurd (other_of_exponentTail h) (by simp)
  · split at h
    · next hwhole =>
        cases positive with
        | false => cases h
        | true => cases h; exact ⟨rfl, rfl, hwhole, rfl⟩
    · exact absurd (other_of_check h) (by simp)

theorem numberEnd_of_endsNumber {x : Scaled} {s : Bytes} (hx : x.exponent = 0)
    (h : EndsNumber s) : numberEnd true x s = .ok (.count x.significand, s) := by
  unfold numberEnd
  split
  · exact absurd (h _ rfl) (by decide)
  · exact absurd (h _ rfl) (by decide)
  · exact absurd (h _ rfl) (by decide)
  · rw [if_pos hx]
    rfl

theorem numberTail_eq_ok {positive : Bool} {n : Nat} {s rest : Bytes}
    (h : numberTail positive s = .ok (.count n, rest)) :
    positive = true ∧ ∃ d digits, s = d :: digits ++ rest ∧ isDigit d = true ∧
      ∀ x, EndsNumber x → numberTail true (d :: digits ++ x) = .ok (.count n, x) ∧
        skipNumber (d :: digits ++ x) = .ok ((), x) := by
  cases s with
  | nil => cases h
  | cons b s =>
      have hb : isDigit b = true := by simpa using (ok_of_guard h).1
      have hzero := (ok_of_guard (ok_of_guard h).2).1
      rw [numberTail_cons hb hzero] at h
      obtain ⟨rfl, rfl, hwhole, hrest⟩ := numberEnd_eq_ok h
      obtain ⟨digits, hs, hall, hread⟩ := @addDigits_append 0 (b :: s)
      generalize addDigits 0 (b :: s) = found at *
      have htake : found.2.takeWhile isDigit = [] :=
        List.length_eq_zero_iff.mp (Int.ofNat_eq_zero.mp hwhole)
      have hleft := @List.takeWhile_append_dropWhile _ isDigit found.2
      rw [htake, List.nil_append] at hleft
      rw [hleft] at hrest
      subst hrest
      cases digits with
      | nil =>
          rw [List.nil_append] at hs
          rw [← hs, List.takeWhile_cons_of_pos hb] at htake
          cases htake
      | cons d digits =>
          rw [List.cons_append, List.cons.injEq] at hs
          obtain ⟨rfl, rfl⟩ := hs
          have hlone : b = 0x30 → digits = [] := by
            rintro rfl
            cases digits with
            | nil => rfl
            | cons d digits => exact absurd (hall d (by simp)) (by simpa using hzero)
          refine ⟨rfl, b, digits, rfl, hb, fun x hx => ⟨?_, ?_⟩⟩
          · have hzero' : ¬(b = 0x30 && (digits ++ x).head?.any isDigit) = true := by
              by_cases hb0 : b = 0x30
              · simp [hb0, hlone hb0, show x.head?.any isDigit = false from hx.noDigit]
              · simp [hb0]
            have hnone : x.takeWhile isDigit = [] := by
              cases x with
              | nil => rfl
              | cons c x =>
                  exact List.takeWhile_cons_of_neg (by simpa [NoDigit] using hx.noDigit)
            have hend : x.dropWhile isDigit = x := dropWhile_isDigit_append
              (List.forall_mem_nil _) hx.noDigit
            rw [List.cons_append, numberTail_cons hb hzero', ← List.cons_append, hread x hx.noDigit,
              hnone, hend]
            exact numberEnd_of_endsNumber rfl hx
          · have hnumber : IsNumber (b :: digits) [] [] :=
              ⟨⟨List.cons_ne_nil _ _, hall⟩,
                fun hhead => by rw [Option.some.inj hhead, hlone (Option.some.inj hhead)],
                .inl rfl, .inl rfl⟩
            exact hnumber.skipNumber hx

end FeedReader.Json
