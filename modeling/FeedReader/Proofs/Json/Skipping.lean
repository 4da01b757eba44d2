import FeedReader.Proofs.Json.Numbers

/-!
# Passing over values

Passing over goes from place to place in the nesting of the input.  A value that is passed over
by itself is passed over inside of other values too, whatever surrounds it.
-/

namespace FeedReader.Json

theorem endsNumber_of_space {b : UInt8} {s : Bytes} (h : isSpace b = true) :
    EndsNumber (b :: s) := by
  have hb : b = 0x20 ∨ b = 0x0a ∨ b = 0x09 ∨ b = 0x0d := by simpa [isSpace, or_assoc] using h
  refine endsNumber_cons ?_
  obtain rfl | rfl | rfl | rfl := hb <;> rfl

theorem endsNumber_of_skipSpace {s : Bytes} (h : EndsNumber (skipSpace s)) : EndsNumber s := by
  cases s with
  | nil => exact h
  | cons b s =>
      by_cases hb : isSpace b = true
      · exact endsNumber_of_space hb
      · rwa [skipSpace, List.dropWhile_cons_of_neg hb] at h

/-! ## One turn -/

theorem skipNested_value (nesting : Bytes) (mayClose : Bool) (budget : Nat) (s : Bytes) :
    skipNested nesting (.value mayClose) (budget + 1) s =
      match skipSpace s with
      | [] => .error .truncated
      | b :: s =>
          if mayClose && b = closeBracket then skipNested nesting.tail .next budget s
          else if b = openBracket then skipNested (b :: nesting) (.value true) budget s
          else if b = openBrace then skipNested (b :: nesting) (.name true) budget s
          else
            match skipScalar budget b s with
            | .ok ((), s) => skipNested nesting .next budget s
            | .error fault => .error fault := by
  rfl

theorem skipNested_name (nesting : Bytes) (mayClose : Bool) (budget : Nat) (s : Bytes) :
    skipNested nesting (.name mayClose) (budget + 1) s =
      match skipSpace s with
      | [] => .error .truncated
      | b :: s =>
          if mayClose && b = closeBrace then skipNested nesting.tail .next budget s
          else
            match skipName budget b s with
            | .ok ((), s) => skipNested nesting (.value false) budget s
            | .error fault => .error fault := by
  rfl

theorem skipNested_next (frame : UInt8) (nesting : Bytes) (budget : Nat) (s : Bytes) :
    skipNested (frame :: nesting) .next (budget + 1) s =
      match skipSpace s with
      | [] => .error .truncated
      | b :: s =>
          if b = closing frame then skipNested nesting .next budget s
          else if b ≠ comma then .error .malformed
          else
            skipNested (frame :: nesting)
              (if frame = openBracket then .value false else .name false) budget s := by
  rfl

/-! ## Passing over -/

/--
Passing over comes from one place to another: with every budget above the length of the input it
goes on like that from the other place, still with enough.
-/
def Reaches (nesting : Bytes) (state : SkipState) (s : Bytes)
    (nesting' : Bytes) (state' : SkipState) (s' : Bytes) : Prop :=
  ∀ budget, s.length < budget → ∃ budget', s'.length < budget' ∧
    skipNested nesting state budget s = skipNested nesting' state' budget' s'

section

variable {nesting nesting' nesting'' s s' s'' : Bytes} {state state' state'' : SkipState}
  {mayClose : Bool}

theorem Reaches.refl : Reaches nesting state s nesting state s :=
  fun budget hbudget => ⟨budget, hbudget, rfl⟩

theorem Reaches.trans (h : Reaches nesting state s nesting' state' s')
    (h' : Reaches nesting' state' s' nesting'' state'' s'') :
    Reaches nesting state s nesting'' state'' s'' := by
  intro budget hbudget
  obtain ⟨budget', hbudget', heq⟩ := h budget hbudget
  obtain ⟨budget'', hbudget'', heq'⟩ := h' budget' hbudget'
  exact ⟨budget'', hbudget'', heq.trans heq'⟩

theorem Reaches.of_step (hlength : s'.length < s.length)
    (h : ∀ budget, s'.length < budget →
      skipNested nesting state (budget + 1) s = skipNested nesting' state' budget s') :
    Reaches nesting state s nesting' state' s' := by
  intro budget hbudget
  obtain ⟨budget, rfl⟩ := Nat.exists_eq_add_one.mpr (Nat.zero_lt_of_lt hbudget)
  exact ⟨budget, by omega, h budget (by omega)⟩

theorem Reaches.of_skipSpace (hstate : state ≠ .next ∨ nesting ≠ [])
    (h : skipSpace s' = skipSpace s) (hlength : s'.length ≤ s.length) :
    Reaches nesting state s nesting state s' := by
  intro budget hbudget
  refine ⟨budget, by omega, ?_⟩
  cases budget with
  | zero => cases hbudget
  | succ budget =>
      cases state with
      | value mayClose => rw [skipNested_value, skipNested_value, h]
      | name mayClose => rw [skipNested_name, skipNested_name, h]
      | next =>
          cases nesting with
          | nil => simp at hstate
          | cons frame nesting => rw [skipNested_next, skipNested_next, h]

theorem reaches_open_list (h : skipSpace s = openBracket :: s') :
    Reaches nesting (.value mayClose) s (openBracket :: nesting) (.value true) s' := by
  refine .of_step (length_lt_of_skipSpace h) fun budget _ => ?_
  rw [skipNested_value, h]
  simp [openBracket, closeBracket]

theorem reaches_open_object (h : skipSpace s = openBrace :: s') :
    Reaches nesting (.value mayClose) s (openBrace :: nesting) (.name true) s' := by
  refine .of_step (length_lt_of_skipSpace h) fun budget _ => ?_
  rw [skipNested_value, h]
  simp [openBrace, closeBracket, openBracket]

theorem reaches_close_list (h : skipSpace s = closeBracket :: s') :
    Reaches nesting (.value true) s nesting.tail .next s' := by
  refine .of_step (length_lt_of_skipSpace h) fun budget _ => ?_
  rw [skipNested_value, h]
  rfl

theorem reaches_close_object (h : skipSpace s = closeBrace :: s') :
    Reaches nesting (.name true) s nesting.tail .next s' := by
  refine .of_step (length_lt_of_skipSpace h) fun budget _ => ?_
  rw [skipNested_name, h]
  rfl

theorem closing_ne_comma (frame : UInt8) : comma ≠ closing frame := by
  rw [closing]
  split <;> decide

theorem reaches_close {frame : UInt8} (h : skipSpace s = closing frame :: s') :
    Reaches (frame :: nesting) .next s nesting .next s' := by
  refine .of_step (length_lt_of_skipSpace h) fun budget _ => ?_
  rw [skipNested_next, h]
  simp

theorem reaches_comma {frame : UInt8} (h : skipSpace s = comma :: s') :
    Reaches (frame :: nesting) .next s (frame :: nesting)
      (if frame = openBracket then .value false else .name false) s' := by
  refine .of_step (length_lt_of_skipSpace h) fun budget _ => ?_
  rw [skipNested_next, h]
  simp [closing_ne_comma]

theorem reaches_scalar {b : UInt8} (h : skipSpace s = b :: s') (hclose : b ≠ closeBracket)
    (hlist : b ≠ openBracket) (hobject : b ≠ openBrace) (hlength : s''.length ≤ s'.length)
    (hscalar : ∀ budget, s'.length < budget → skipScalar budget b s' = .ok ((), s'')) :
    Reaches nesting (.value mayClose) s nesting .next s'' := by
  have hshorter := length_lt_of_skipSpace h
  intro budget hbudget
  obtain ⟨budget, rfl⟩ := Nat.exists_eq_add_one.mpr (Nat.zero_lt_of_lt hbudget)
  refine ⟨budget, by omega, ?_⟩
  rw [skipNested_value, h]
  simp [hclose, hlist, hobject, hscalar budget (by omega)]

theorem reaches_name (h : skipSpace s = quote :: s') (hlength : s''.length ≤ s'.length)
    (hname : ∀ budget, s'.length < budget → skipName budget quote s' = .ok ((), s'')) :
    Reaches nesting (.name mayClose) s nesting (.value false) s'' := by
  have hshorter := length_lt_of_skipSpace h
  have hquote : quote ≠ closeBrace := by decide
  intro budget hbudget
  obtain ⟨budget, rfl⟩ := Nat.exists_eq_add_one.mpr (Nat.zero_lt_of_lt hbudget)
  refine ⟨budget, by omega, ?_⟩
  rw [skipNested_name, h]
  simp [hquote, hname budget (by omega)]

end

/-! ## Scalars and names -/

theorem skipScalar_eq_ok {budget : Nat} {b : UInt8} {s rest : Bytes}
    (h : skipScalar budget b s = .ok ((), rest)) :
    b ≠ closeBracket ∧ b ≠ openBracket ∧ b ≠ openBrace ∧ ∃ front, s = front ++ rest ∧
      ∀ x, EndsNumber x → ∀ budget, (front ++ x).length < budget →
        skipScalar budget b (front ++ x) = .ok ((), x) := by
  have hword : ∀ {expected : Bytes}, word expected s = .ok ((), rest) →
      (∀ budget x, skipScalar budget b x = word expected x) →
      ∃ front, s = front ++ rest ∧ ∀ x, EndsNumber x → ∀ budget, (front ++ x).length < budget →
        skipScalar budget b (front ++ x) = .ok ((), x) := by
    intro expected hread hscalar
    refine ⟨expected, eq_append_of_word hread, fun x _ budget _ => ?_⟩
    rw [hscalar, fixes_word]
  rw [skipScalar] at h
  split at h
  · next hb =>
      subst hb
      exact ⟨by decide, by decide, by decide, hword h fun _ _ => rfl⟩
  split at h
  · next hb =>
      subst hb
      exact ⟨by decide, by decide, by decide, hword h fun _ _ => rfl⟩
  split at h
  · next hb =>
      subst hb
      exact ⟨by decide, by decide, by decide, hword h fun _ _ => rfl⟩
  split at h
  · next hb =>
      subst hb
      obtain ⟨front, rfl, -, hskip⟩ := skipNumber_eq_ok h
      exact ⟨by decide, by decide, by decide, front, rfl, fun x hx _ _ => hskip x hx⟩
  next hnull htrue hfalse hminus =>
  split at h
  · next hdigit =>
      obtain ⟨front, hs, hne, hskip⟩ := skipNumber_eq_ok h
      cases front with
      | nil => exact absurd rfl hne
      | cons c front =>
          obtain ⟨rfl, rfl⟩ := List.cons.inj hs
          refine ⟨?_, ?_, ?_, front, rfl, fun x hx budget _ => ?_⟩
          · rintro rfl
            cases hdigit
          · rintro rfl
            cases hdigit
          · rintro rfl
            cases hdigit
          · rw [skipScalar, if_neg hnull, if_neg htrue, if_neg hfalse, if_neg hminus,
              if_pos hdigit]
            exact hskip x hx
  split at h
  · next hb =>
      subst hb
      obtain ⟨front, rfl, hwritten⟩ := skipString_eq_ok h
      exact ⟨by decide, by decide, by decide, front, rfl, fun x _ => hwritten.takes x⟩
  · cases h

theorem takes_skipName {front blank : Bytes} (hname : WrittenString front)
    (hcolon : ∀ y, skipSpace (blank ++ colon :: y) = colon :: y) :
    Takes (fun budget => skipName budget quote) (front ++ (blank ++ [colon])) () := by
  intro x budget hbudget
  have hmore : ∀ y, blank ++ [colon] ++ y = blank ++ colon :: y := fun y => by simp
  rw [List.append_assoc, hmore] at hbudget ⊢
  simp [skipName, hname.takes _ budget hbudget, hcolon, bind, Except.bind]

theorem skipName_eq_ok {budget : Nat} {b : UInt8} {s rest : Bytes}
    (h : skipName budget b s = .ok ((), rest)) :
    b = quote ∧ ∃ front, s = front ++ rest ∧
      Takes (fun budget => skipName budget quote) front () := by
  obtain ⟨hb, hbind⟩ := ok_of_guard h
  obtain ⟨⟨⟨⟩, s'⟩, hname, hcolon⟩ := ok_of_bind hbind
  obtain ⟨front, rfl, hwritten⟩ := skipString_eq_ok hname
  dsimp only at hcolon
  split at hcolon
  · cases hcolon
  · next c s'' hspace =>
      split at hcolon
      · next hc =>
          subst hc
          cases hcolon
          obtain ⟨blank, rfl, hblank⟩ := skipSpace_eq_cons hspace
          exact ⟨Decidable.not_not.mp hb, front ++ (blank ++ [colon]), by simp,
            takes_skipName hwritten hblank⟩
      · cases hcolon

/-! ## Values -/

theorem endsNumber_of_head {b : UInt8} {s rest : Bytes} (h : skipSpace s = b :: rest)
    (hb : continuesNumber b = false) : EndsNumber s := by
  refine endsNumber_of_skipSpace ?_
  rw [h]
  exact endsNumber_cons hb

def SkipState.mayClose : SkipState → Bool
  | .value mayClose | .name mayClose => mayClose
  | .next => false

theorem skipNested_value_cases {nesting s rest : Bytes} {mayClose : Bool} {budget : Nat}
    (h : skipNested nesting (.value mayClose) (budget + 1) s = .ok ((), rest)) :
    (mayClose = true ∧ ∃ front s', s = front ++ s' ∧
      skipNested nesting.tail .next budget s' = .ok ((), rest) ∧
      ∀ outer x, Reaches outer (.value true) (front ++ x) outer.tail .next x) ∨
    ∃ opened state front s', s = front ++ s' ∧ (state.mayClose = true → opened ≠ []) ∧
      skipNested (opened ++ nesting) state budget s' = .ok ((), rest) ∧
      ∀ outer mayClose x, (state = .next → EndsNumber x) →
        Reaches outer (.value mayClose) (front ++ x) (opened ++ outer) state x := by
  rw [skipNested_value] at h
  cases hspace : skipSpace s with
  | nil => rw [hspace] at h; cases h
  | cons b s₁ =>
      rw [hspace] at h
      obtain ⟨blank, rfl, hblank⟩ := skipSpace_eq_cons hspace
      dsimp only at h
      split at h
      · next hclose =>
          obtain ⟨hmay, hb⟩ := Bool.and_eq_true_iff.mp hclose
          obtain rfl := of_decide_eq_true hb
          refine .inl ⟨hmay, blank ++ [closeBracket], s₁, by simp, h, fun outer x => ?_⟩
          exact reaches_close_list (by simp [hblank])
      refine .inr ?_
      split at h
      · next hlist =>
          subst hlist
          refine ⟨[openBracket], .value true, blank ++ [openBracket], s₁, by simp, by simp, h,
            fun outer mayClose x _ => ?_⟩
          exact reaches_open_list (by simp [hblank])
      split at h
      · next hobject =>
          subst hobject
          refine ⟨[openBrace], .name true, blank ++ [openBrace], s₁, by simp, by simp, h,
            fun outer mayClose x _ => ?_⟩
          exact reaches_open_object (by simp [hblank])
      split at h
      · next s' hscalar =>
          obtain ⟨hclose, hlist, hobject, front, rfl, hskip⟩ := skipScalar_eq_ok hscalar
          refine ⟨[], .next, blank ++ b :: front, s', by simp, nofun, h,
            fun outer mayClose x hx => ?_⟩
          have hspace' : skipSpace (blank ++ b :: front ++ x) = b :: (front ++ x) := by
            simp [hblank]
          exact reaches_scalar hspace' hclose hlist hobject (by simp) (hskip x (hx rfl))
      · cases h

theorem skipNested_name_cases {nesting s rest : Bytes} {mayClose : Bool} {budget : Nat}
    (h : skipNested nesting (.name mayClose) (budget + 1) s = .ok ((), rest)) :
    (mayClose = true ∧ ∃ front s', s = front ++ s' ∧
      skipNested nesting.tail .next budget s' = .ok ((), rest) ∧
      ∀ outer x, Reaches outer (.name true) (front ++ x) outer.tail .next x) ∨
    ∃ front s', s = front ++ s' ∧
      skipNested nesting (.value false) budget s' = .ok ((), rest) ∧
      ∀ outer x, Reaches outer (.name mayClose) (front ++ x) outer (.value false) x := by
  rw [skipNested_name] at h
  cases hspace : skipSpace s with
  | nil => rw [hspace] at h; cases h
  | cons b s₁ =>
      rw [hspace] at h
      obtain ⟨blank, rfl, hblank⟩ := skipSpace_eq_cons hspace
      dsimp only at h
      split at h
      · next hclose =>
          obtain ⟨hmay, hb⟩ := Bool.and_eq_true_iff.mp hclose
          obtain rfl := of_decide_eq_true hb
          refine .inl ⟨hmay, blank ++ [closeBrace], s₁, by simp, h, fun outer x => ?_⟩
          exact reaches_close_object (by simp [hblank])
      split at h
      · next s' hname =>
          obtain ⟨rfl, front, rfl, htakes⟩ := skipName_eq_ok hname
          refine .inr ⟨blank ++ quote :: front, s', by simp, h, fun outer x => ?_⟩
          have hspace' : skipSpace (blank ++ quote :: front ++ x) = quote :: (front ++ x) := by
            simp [hblank]
          exact reaches_name hspace' (by simp) (htakes x)
      · cases h

theorem skipNested_next_cases {nesting s rest : Bytes} {budget : Nat}
    (h : skipNested nesting .next (budget + 1) s = .ok ((), rest)) :
    nesting = [] ∧ s = rest ∨
    EndsNumber s ∧ ∃ frame nesting', nesting = frame :: nesting' ∧ ∃ front s' kept state,
      s = front ++ s' ∧ state.mayClose = false ∧
      skipNested (kept ++ nesting') state budget s' = .ok ((), rest) ∧
      ∀ outer x, Reaches (frame :: outer) .next (front ++ x) (kept ++ outer) state x := by
  cases nesting with
  | nil =>
      cases h
      exact .inl ⟨rfl, rfl⟩
  | cons frame nesting =>
      rw [skipNested_next] at h
      refine .inr ?_
      cases hspace : skipSpace s with
      | nil => rw [hspace] at h; cases h
      | cons b s₁ =>
          rw [hspace] at h
          obtain ⟨blank, rfl, hblank⟩ := skipSpace_eq_cons hspace
          have hblank' : ∀ x, skipSpace (blank ++ [b] ++ x) = b :: x := fun x => by simp [hblank]
          dsimp only at h
          split at h
          · next hclose =>
              subst hclose
              have hends : continuesNumber (closing frame) = false := by
                rw [closing]
                split <;> rfl
              exact ⟨endsNumber_of_head hspace hends, frame, nesting, rfl, blank ++ [closing frame],
                s₁, [], .next, by simp, rfl, h, fun outer x => reaches_close (hblank' x)⟩
          · obtain ⟨hcomma, hrest⟩ := ok_of_guard h
            obtain rfl := Decidable.not_not.mp hcomma
            refine ⟨endsNumber_of_head hspace rfl, frame, nesting, rfl, blank ++ [comma], s₁,
              [frame], if frame = openBracket then .value false else .name false, by simp, ?_,
              hrest, fun outer x => reaches_comma (hblank' x)⟩
            split <;> rfl

/-- What is begun where nothing may close is begun alike where something may. -/
def SkipState.Allows (state state' : SkipState) : Prop :=
  state' = state ∨ state = .value false ∧ ∃ mayClose, state' = .value mayClose

theorem endsNumber_append_of_next {nesting front rest x : Bytes} {budget : Nat}
    (h : skipNested nesting .next budget (front ++ rest) = .ok ((), rest)) (hx : EndsNumber x) :
    EndsNumber (front ++ x) := by
  cases budget with
  | zero => cases h
  | succ budget =>
      obtain ⟨-, hfront⟩ | ⟨hends, -⟩ := skipNested_next_cases h
      · obtain rfl : front = [] := by simpa using hfront
        exact hx
      · exact hends.append hx

/--
What is passed over is the front of the input, and on every input with that front the passing
over comes to the same end, whatever the nesting around it.
-/
theorem skipNested_reaches {nesting s rest : Bytes} {state : SkipState} {budget : Nat}
    (h : skipNested nesting state budget s = .ok ((), rest))
    (hopen : state.mayClose = true → nesting ≠ []) :
    ∃ front, s = front ++ rest ∧ ∀ state', state.Allows state' → ∀ outer x, EndsNumber x →
      Reaches (nesting ++ outer) state' (front ++ x) outer .next x := by
  -- by turns; the front is that of the first turn and that of the turns after it
  induction budget generalizing nesting state s with
  | zero => cases h
  | succ budget ih =>
      cases state with
      | value mayClose =>
          obtain ⟨rfl, front, s', rfl, hrest, hreach⟩ |
            ⟨opened, state, front, s', rfl, hstate, hrest, hreach⟩ := skipNested_value_cases h
          · obtain ⟨tail, rfl, htail⟩ := ih hrest nofun
            refine ⟨front ++ tail, (List.append_assoc ..).symm, fun state' hallows outer x hx => ?_⟩
            obtain rfl : state' = .value true := by simpa [SkipState.Allows] using hallows
            cases nesting with
            | nil => exact absurd rfl (hopen rfl)
            | cons frame nesting =>
                rw [List.append_assoc]
                exact (hreach _ _).trans (htail .next (.inl rfl) outer x hx)
          · obtain ⟨tail, rfl, htail⟩ := ih hrest fun hmay => by simp [hstate hmay]
            refine ⟨front ++ tail, (List.append_assoc ..).symm, fun state' hallows outer x hx => ?_⟩
            obtain ⟨may, rfl⟩ : ∃ may, state' = .value may := by
              obtain rfl | ⟨-, hvalue⟩ := hallows
              · exact ⟨mayClose, rfl⟩
              · exact hvalue
            have hnext : state = .next → EndsNumber (tail ++ x) := by
              rintro rfl
              exact endsNumber_append_of_next hrest hx
            have hend := htail state (.inl rfl) outer x hx
            rw [List.append_assoc] at hend ⊢
            exact (hreach _ may _ hnext).trans hend
      | name mayClose =>
          have hsame : ∀ {state'}, SkipState.Allows (.name mayClose) state' →
              state' = .name mayClose := by
            rintro _ (rfl | ⟨hvalue, -⟩)
            · rfl
            · cases hvalue
          obtain ⟨rfl, front, s', rfl, hrest, hreach⟩ | ⟨front, s', rfl, hrest, hreach⟩ :=
            skipNested_name_cases h
          · obtain ⟨tail, rfl, htail⟩ := ih hrest nofun
            refine ⟨front ++ tail, (List.append_assoc ..).symm, fun state' hallows outer x hx => ?_⟩
            obtain rfl := hsame hallows
            cases nesting with
            | nil => exact absurd rfl (hopen rfl)
            | cons frame nesting =>
                rw [List.append_assoc]
                exact (hreach _ _).trans (htail .next (.inl rfl) outer x hx)
          · obtain ⟨tail, rfl, htail⟩ := ih hrest nofun
            refine ⟨front ++ tail, (List.append_assoc ..).symm, fun state' hallows outer x hx => ?_⟩
            obtain rfl := hsame hallows
            rw [List.append_assoc]
            exact (hreach _ _).trans (htail _ (.inl rfl) outer x hx)
      | next =>
          obtain ⟨rfl, rfl⟩ | ⟨-, frame, nesting, rfl, front, s', kept, state, rfl, hstate, hrest,
            hreach⟩ := skipNested_next_cases h
          · refine ⟨[], rfl, fun state' hallows outer x _ => ?_⟩
            obtain rfl : state' = .next := by simpa [SkipState.Allows] using hallows
            exact .refl
          · obtain ⟨tail, rfl, htail⟩ := ih hrest fun hmay => by simp [hstate] at hmay
            refine ⟨front ++ tail, (List.append_assoc ..).symm, fun state' hallows outer x hx => ?_⟩
            obtain rfl : state' = .next := by simpa [SkipState.Allows] using hallows
            have hend := htail state (.inl rfl) outer x hx
            rw [List.append_assoc] at hend ⊢
            exact (hreach _ _).trans hend

end FeedReader.Json
