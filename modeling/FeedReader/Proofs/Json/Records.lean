import FeedReader.Json.Record
import FeedReader.Proofs.Json.Readers

/-!
# Records are whole values

A record whose fields are whole values is one itself, written as an object or as a list, and
whatever the members are that nobody asked for.
-/

namespace FeedReader.Json

/-! ## Members -/

def ReadsMember {α : Type} (read : Reader α) (front : Bytes) (a : α) : Prop :=
  ∃ blank value, front = blank ++ colon :: value ∧
    (∀ y, skipSpace (blank ++ colon :: y) = colon :: y) ∧ ∀ x, EndsNumber x →
      (∀ budget, (front ++ x).length < budget → read budget (front ++ x) = .ok (a, x)) ∧
      ∀ nesting mayClose, Reaches nesting (.value mayClose) (value ++ x) nesting .next x

theorem ReadsMember.map {α β : Type} {read : Reader α} {read' : Reader β} {front : Bytes} {a : α}
    {b : β} (h : ReadsMember read front a)
    (hread : ∀ budget s x, read budget s = .ok (a, x) → read' budget s = .ok (b, x)) :
    ReadsMember read' front b := by
  obtain ⟨blank, value, hfront, hblank, hvalue⟩ := h
  exact ⟨blank, value, hfront, hblank, fun x hx =>
    ⟨fun budget hbudget => hread budget _ x ((hvalue x hx).1 budget hbudget), (hvalue x hx).2⟩⟩

theorem memberValue_eq_ok {α : Type} {read : Reader α} (h : Whole read) {budget : Nat}
    {s rest : Bytes} {a : α} (hread : memberValue read budget s = .ok (a, rest)) :
    ∃ front, s = front ++ rest ∧ ReadsMember (memberValue read) front a := by
  rw [memberValue] at hread
  split at hread
  · cases hread
  next b s' hspace =>
  split at hread
  · next hb =>
      subst hb
      obtain ⟨blank, rfl, hblank⟩ := skipSpace_eq_cons hspace
      obtain ⟨value, rfl, hvalue⟩ := h.exists_front hread
      refine ⟨blank ++ colon :: value, by simp, blank, value, rfl, hblank, fun x hx =>
        ⟨fun budget hbudget => ?_, (hvalue x hx).2⟩⟩
      have hlength : (value ++ x).length < budget := by
        simp at hbudget ⊢
        omega
      rw [memberValue, List.append_assoc, List.cons_append, hblank]
      exact (hvalue x hx).1 budget hlength
  · cases hread

theorem readMember_eq_ok {fields : List Field} (h : ∀ f ∈ fields, Whole f.read) {name : String}
    {draft draft' : Draft fields} {budget : Nat} {s rest : Bytes}
    (hread : readMember name fields draft budget s = .ok (draft', rest)) :
    ∃ front, s = front ++ rest ∧ ReadsMember (readMember name fields draft) front draft' := by
  induction fields with
  | nil => exact memberValue_eq_ok whole_skipValue hread
  | cons f fields ih =>
      obtain ⟨hf, hfields⟩ := List.forall_mem_cons.mp h
      obtain ⟨value, draft⟩ := draft
      by_cases hname : f.name = name
      · cases value with
        | some value => simp [readMember, hname] at hread
        | none =>
            have hmember : ∀ budget s, readMember name (f :: fields) (none, draft) budget s =
                (memberValue f.read budget s).map fun r => ((some r.1, draft), r.2) :=
              fun budget s => if_pos hname
            rw [hmember] at hread
            obtain ⟨⟨a, s'⟩, ha, hdraft⟩ := ok_of_map hread
            cases hdraft
            obtain ⟨front, hs, hreads⟩ := memberValue_eq_ok hf ha
            refine ⟨front, hs, hreads.map fun budget s x hx => ?_⟩
            rw [hmember, hx]
            rfl
      · have hmember : ∀ budget s, readMember name (f :: fields) (value, draft) budget s =
            (readMember name fields draft budget s).map fun r => ((value, r.1), r.2) :=
          fun budget s => if_neg hname
        rw [hmember] at hread
        obtain ⟨⟨a, s'⟩, ha, hdraft⟩ := ok_of_map hread
        cases hdraft
        obtain ⟨front, hs, hreads⟩ := ih hfields ha
        refine ⟨front, hs, hreads.map fun budget s x hx => ?_⟩
        rw [hmember, hx]
        rfl

def inObject (first : Bool) : SkipState := if first then .name true else .next

theorem nextMember_end {first : Bool} {s rest : Bytes}
    (h : nextMember first s = .ok (false, rest)) :
    ∃ front, s = front ++ rest ∧ ∀ x, nextMember first (front ++ x) = .ok (false, x) ∧
      ∀ nesting, Reaches (openBrace :: nesting) (inObject first) (front ++ x) nesting .next x := by
  rw [nextMember] at h
  split at h
  · cases h
  next b s' hspace =>
  split at h
  · next hb =>
      subst hb
      cases h
      obtain ⟨blank, rfl, hblank⟩ := skipSpace_eq_cons hspace
      refine ⟨blank ++ [closeBrace], by simp, fun x => ?_⟩
      have hspace' : skipSpace (blank ++ [closeBrace] ++ x) = closeBrace :: x := by simp [hblank]
      refine ⟨?_, fun nesting => ?_⟩
      · rw [nextMember, hspace']
        rfl
      · cases first with
        | true => exact reaches_close_object hspace'
        | false => exact reaches_close hspace'
  · grind

theorem nextMember_more {first : Bool} {s rest : Bytes}
    (h : nextMember first s = .ok (true, rest)) :
    ∃ before, s = before ++ quote :: rest ∧ ∀ x,
      nextMember first (before ++ quote :: x) = .ok (true, x) ∧
      ∀ nesting, Reaches (openBrace :: nesting) (inObject first) (before ++ quote :: x)
        (openBrace :: nesting) (.name first) (quote :: x) := by
  have hclose : quote ≠ closeBrace := by decide
  rw [nextMember] at h
  split at h
  · cases h
  next b s' hspace =>
  obtain ⟨blank, rfl, hblank⟩ := skipSpace_eq_cons hspace
  split at h
  · cases h
  next hb =>
  cases first with
  | true =>
      rw [if_pos rfl] at h
      split at h
      · next hquote =>
          subst hquote
          cases h
          refine ⟨blank, rfl, fun x => ⟨?_, fun nesting => ?_⟩⟩
          · rw [nextMember, hblank]
            simp [hclose]
          · exact .skipSpace_of_ne_nil nofun (hblank x)
      · cases h
  | false =>
      rw [if_neg Bool.false_ne_true] at h
      split at h
      · next hcomma =>
          subst hcomma
          split at h
          · cases h
          next c s₂ hspace' =>
          obtain ⟨blank', rfl, hblank'⟩ := skipSpace_eq_cons hspace'
          split at h
          · next hquote =>
              subst hquote
              cases h
              refine ⟨blank ++ comma :: blank', by simp, fun x => ?_⟩
              rw [List.append_assoc, List.cons_append]
              refine ⟨?_, fun nesting => ?_⟩
              · rw [nextMember, hblank]
                simp [hb, hblank']
              · have hcomma : Reaches (openBrace :: nesting) .next
                    (blank ++ comma :: (blank' ++ quote :: x)) (openBrace :: nesting)
                    (.name false) (blank' ++ quote :: x) := reaches_comma (hblank _)
                exact hcomma.trans (.skipSpace_of_ne_nil nofun (hblank' x))
          · cases h
      · cases h

theorem endsNumber_of_nextMember {s : Bytes} {r : Bool × Bytes} (h : nextMember false s = .ok r) :
    EndsNumber s := by
  rw [nextMember] at h
  split at h
  · cases h
  next b s' hspace =>
  split at h
  · next hb => exact endsNumber_of_head hspace (hb ▸ rfl)
  · rw [if_neg Bool.false_ne_true] at h
    split at h
    · next hb => exact endsNumber_of_head hspace (hb ▸ rfl)
    · cases h

theorem members_succ (fields : List Field) (first : Bool) (draft : Draft fields) (budget : Nat)
    (s : Bytes) :
    members fields first draft (budget + 1) s = (nextMember first s).bind fun r =>
      if r.1 then (stringTail budget r.2).bind fun name =>
        (readMember name.1 fields draft budget name.2).bind fun member =>
          members fields false member.1 budget member.2
      else draft.complete.bind fun filled => .ok (filled, r.2) := by
  rw [members]
  cases nextMember first s with
  | error fault => rfl
  | ok r =>
      obtain ⟨_ | _, s'⟩ := r <;> rfl

theorem endsNumber_of_members {fields : List Field} {draft : Draft fields} {budget : Nat}
    {s : Bytes} {r : Filled fields × Bytes} (h : members fields false draft budget s = .ok r) :
    EndsNumber s := by
  cases budget with
  | zero => cases h
  | succ budget =>
      rw [members_succ] at h
      obtain ⟨next, hnext, -⟩ := ok_of_bind h
      exact endsNumber_of_nextMember hnext

theorem exists_member {fields : List Field} (h : ∀ f ∈ fields, Whole f.read) {first : Bool}
    {name : String} {draft draft' : Draft fields} {budget : Nat} {s s₁ s₂ s₃ : Bytes}
    (hnext : nextMember first s = .ok (true, s₁)) (hname : stringTail budget s₁ = .ok (name, s₂))
    (hread : readMember name fields draft budget s₂ = .ok (draft', s₃)) :
    ∃ front, s = front ++ s₃ ∧ front ≠ [] ∧ ∀ x, EndsNumber x →
      (∀ budget, (front ++ x).length ≤ budget →
        members fields first draft (budget + 1) (front ++ x) =
          members fields false draft' budget x) ∧
      ∀ nesting, Reaches (openBrace :: nesting) (inObject first) (front ++ x)
        (openBrace :: nesting) .next x := by
  obtain ⟨before, rfl, hbefore⟩ := nextMember_more hnext
  obtain ⟨front₁, rfl, htail, hwritten⟩ := takes_stringTail hname
  obtain ⟨front₂, rfl, hreads⟩ := readMember_eq_ok h hread
  obtain ⟨blank, value, rfl, hblank, hvalue⟩ := hreads
  refine ⟨before ++ quote :: (front₁ ++ (blank ++ colon :: value)), by simp, by simp,
    fun x hx => ?_⟩
  obtain ⟨hvalue, hpass⟩ := hvalue x hx
  have hsame : before ++ quote :: (front₁ ++ (blank ++ colon :: value)) ++ x =
      before ++ quote :: (front₁ ++ (blank ++ colon :: value ++ x)) := by simp
  rw [hsame]
  refine ⟨fun budget hbudget => ?_, fun nesting => ?_⟩
  · simp only [List.length_append, List.length_cons] at hbudget
    rw [members_succ, (hbefore _).1]
    simp only [Except.bind, if_true]
    rw [htail _ _ (by simp; omega)]
    dsimp only
    rw [hvalue _ (by simp; omega)]
  · have hname : Reaches (openBrace :: nesting) (.name first)
        (quote :: (front₁ ++ (blank ++ colon :: value ++ x))) (openBrace :: nesting)
        (.value false) (value ++ x) := by
      refine reaches_name rfl (by simp; omega) fun budget hbudget => ?_
      have hread := takes_skipName hwritten hblank (value ++ x) budget
      simp only [List.append_assoc, List.cons_append] at hread hbudget ⊢
      exact hread hbudget
    exact ((hbefore _).2 nesting).trans (hname.trans (hpass _ _))

theorem members_eq_ok {fields : List Field} (h : ∀ f ∈ fields, Whole f.read) {first : Bool}
    {draft : Draft fields} {budget : Nat} {s rest : Bytes} {filled : Filled fields}
    (hread : members fields first draft budget s = .ok (filled, rest)) :
    ∃ front, s = front ++ rest ∧ ∀ x,
      (∀ budget, (front ++ x).length < budget →
        members fields first draft budget (front ++ x) = .ok (filled, x)) ∧
      ∀ nesting, Reaches (openBrace :: nesting) (inObject first) (front ++ x) nesting .next x := by
  induction budget generalizing first draft s with
  | zero => cases hread
  | succ budget ih =>
      rw [members_succ] at hread
      obtain ⟨⟨more, s₁⟩, hnext, hmore⟩ := ok_of_bind hread
      cases more with
      | false =>
          obtain ⟨filled', hcomplete, hfilled⟩ := ok_of_bind hmore
          cases hfilled
          obtain ⟨front, rfl, hfront⟩ := nextMember_end hnext
          refine ⟨front, rfl, fun x => ⟨fun budget hbudget => ?_, (hfront x).2⟩⟩
          obtain ⟨budget, rfl⟩ := Nat.exists_eq_add_one.mpr (Nat.zero_lt_of_lt hbudget)
          rw [members_succ, (hfront x).1]
          simp [Except.bind, hcomplete]
      | true =>
          obtain ⟨⟨name, s₂⟩, hname, hmember⟩ := ok_of_bind hmore
          obtain ⟨⟨draft', s₃⟩, hdraft, hmembers⟩ := ok_of_bind hmember
          obtain ⟨front₁, rfl, hne, hfront₁⟩ := exists_member h hnext hname hdraft
          obtain ⟨front₂, rfl, hfront₂⟩ := ih hmembers
          refine ⟨front₁ ++ front₂, (List.append_assoc ..).symm, fun x => ?_⟩
          obtain ⟨htakes, hpasses⟩ := hfront₂ x
          have hends : EndsNumber (front₂ ++ x) :=
            endsNumber_of_members (htakes _ (Nat.lt_succ_self _))
          obtain ⟨hmember', hreach⟩ := hfront₁ _ hends
          rw [List.append_assoc]
          refine ⟨fun budget hbudget => ?_, fun nesting =>
            (hreach nesting).trans (hpasses nesting)⟩
          have hpositive := List.length_pos_iff.mpr hne
          obtain ⟨budget, rfl⟩ := Nat.exists_eq_add_one.mpr (Nat.zero_lt_of_lt hbudget)
          rw [hmember' budget (Nat.le_of_lt_succ hbudget)]
          rw [List.length_append] at hbudget
          exact htakes budget (by omega)

/-! ## Positions -/

theorem positions_cons (f : Field) (fields : List Field) (first : Bool) (budget : Nat) (s : Bytes) :
    positions (f :: fields) first budget s = (nextItem first s).bind fun r =>
      if r.1 then (f.read budget r.2).bind fun value =>
        (positions fields false budget value.2).map fun r => ((value.1, r.1), r.2)
      else
        match f.default? with
        | none => .error .mismatched
        | some value => (positions fields first budget r.2).map fun r => ((value, r.1), r.2) := by
  simp only [positions]
  cases nextItem first s with
  | error fault => rfl
  | ok r =>
      obtain ⟨_ | _, s'⟩ := r <;> rfl

theorem endOf_eq_ok {s rest : Bytes} (h : endOf closeBracket s = .ok ((), rest)) :
    skipSpace s = closeBracket :: rest := by
  rw [endOf] at h
  split at h
  · cases h
  · next b s' hspace =>
      split at h
      · next hb =>
          cases h
          rw [hspace, hb]
      · cases h

theorem endsNumber_of_positions {fields : List Field} {budget : Nat} {s s₁ rest : Bytes}
    {filled : Filled fields} (hread : positions fields false budget s = .ok (filled, s₁))
    (hend : endOf closeBracket s₁ = .ok ((), rest)) : EndsNumber s := by
  cases fields with
  | nil =>
      cases hread
      exact endsNumber_of_head (endOf_eq_ok hend) rfl
  | cons f fields =>
      rw [positions_cons] at hread
      obtain ⟨r, hr, -⟩ := ok_of_bind hread
      exact endsNumber_of_nextItem hr

theorem positions_eq_ok {fields : List Field} (h : ∀ f ∈ fields, Whole f.read) {first : Bool}
    {budget : Nat} {s s₁ rest : Bytes} {filled : Filled fields}
    (hread : positions fields first budget s = .ok (filled, s₁))
    (hend : endOf closeBracket s₁ = .ok ((), rest)) :
    ∃ front, s = front ++ rest ∧ front ≠ [] ∧ ∀ x,
      (∀ budget, (front ++ x).length < budget → ∃ s₁,
        positions fields first budget (front ++ x) = .ok (filled, s₁) ∧
        endOf closeBracket s₁ = .ok ((), x)) ∧
      ∀ nesting, Reaches (openBracket :: nesting) (inList first) (front ++ x) nesting .next x := by
  induction fields generalizing first s with
  | nil =>
      cases hread
      obtain ⟨blank, rfl, hblank⟩ := skipSpace_eq_cons (endOf_eq_ok hend)
      refine ⟨blank ++ [closeBracket], by simp, by simp, fun x => ?_⟩
      rw [List.append_assoc, List.singleton_append]
      refine ⟨fun budget _ => ⟨_, rfl, ?_⟩, fun nesting => ?_⟩
      · rw [endOf, hblank]
        rfl
      · exact (Reaches.skipSpace_of_ne_nil (List.cons_ne_nil _ _) (hblank x)).trans reaches_end_list
  | cons f fields ih =>
      obtain ⟨hf, hfields⟩ := List.forall_mem_cons.mp h
      rw [positions_cons] at hread
      obtain ⟨⟨more, s₂⟩, hnext, hmore⟩ := ok_of_bind hread
      cases more with
      | false =>
          obtain ⟨before, c, tail, rfl, rfl, hclose, hitem⟩ := nextItem_eq_ok hnext
          obtain rfl := hclose rfl
          rw [if_neg Bool.false_ne_true] at hmore
          split at hmore
          · cases hmore
          next value hdefault =>
          obtain ⟨⟨filled, s₃⟩, hpositions, hfilled⟩ := ok_of_map hmore
          cases hfilled
          obtain ⟨front, hs, hne, hfront⟩ := ih hfields hpositions
          cases front with
          | nil => exact absurd rfl hne
          | cons c front =>
              obtain ⟨rfl, rfl⟩ := List.cons.inj hs
              refine ⟨before ++ closeBracket :: front, by simp, by simp, fun x => ?_⟩
              obtain ⟨-, hnext', hreach⟩ := hitem (front ++ x)
              obtain ⟨htakes, hpasses⟩ := hfront x
              rw [List.append_assoc]
              refine ⟨fun budget hbudget => ?_, fun nesting =>
                (hreach nesting).trans (hpasses nesting)⟩
              obtain ⟨s₁, hs₁, hend'⟩ := htakes budget (by simp at hbudget ⊢; omega)
              refine ⟨s₁, ?_, hend'⟩
              rw [List.cons_append] at hs₁ ⊢
              rw [positions_cons, hnext']
              simp only [Except.bind, hdefault, hs₁, Except.map]
              rfl
      | true =>
          obtain ⟨⟨value, s₃⟩, hvalue, hpositions⟩ := ok_of_bind hmore
          obtain ⟨⟨filled, s₄⟩, hrest, hfilled⟩ := ok_of_map hpositions
          cases hfilled
          obtain ⟨front₁, rfl, hne, hfront₁⟩ := hf.exists_item hnext hvalue
          obtain ⟨front₂, rfl, -, hfront₂⟩ := ih hfields hrest
          refine ⟨front₁ ++ front₂, (List.append_assoc ..).symm, by simp [hne], fun x => ?_⟩
          obtain ⟨htakes, hpasses⟩ := hfront₂ x
          have hends : EndsNumber (front₂ ++ x) := by
            obtain ⟨s₁, hs₁, hend'⟩ := htakes _ (Nat.lt_succ_self _)
            exact endsNumber_of_positions hs₁ hend'
          obtain ⟨⟨s', hnext', hlength, hvalue'⟩, hreach⟩ := hfront₁ _ hends
          rw [List.append_assoc]
          refine ⟨fun budget hbudget => ?_, fun nesting =>
            (hreach nesting).trans (hpasses nesting)⟩
          obtain ⟨s₁, hs₁, hend'⟩ := htakes budget (by simp at hbudget ⊢; omega)
          refine ⟨s₁, ?_, hend'⟩
          rw [positions_cons, hnext']
          simp only [Except.bind, if_true]
          rw [hvalue' budget (by omega)]
          simp only [hs₁, Except.map]
          rfl

theorem whole_record {fields : List Field} (h : ∀ f ∈ fields, Whole f.read) :
    Whole (record fields) := by
  intro budget s filled rest hread
  rw [record] at hread
  split at hread
  · cases hread
  next b s' hspace =>
  split at hread
  · next hb =>
      subst hb
      obtain ⟨front, rfl, hfront⟩ := members_eq_ok h hread
      refine ⟨openBrace :: front, hspace, List.cons_ne_nil _ _,
        fun s x hs _ budget hbudget => ?_, fun s x hs _ nesting mayClose => ?_⟩
      · have hlength : (front ++ x).length < s.length := length_lt_of_skipSpace hs
        rw [record, hs]
        exact (hfront x).1 budget (by omega)
      · exact (reaches_open_object hs).trans ((hfront x).2 nesting)
  · split at hread
    · next hb =>
        subst hb
        obtain ⟨⟨filled, s₁⟩, hpositions, hrest⟩ := ok_of_bind hread
        obtain ⟨⟨⟨⟩, s₂⟩, hend, hresult⟩ := ok_of_bind hrest
        cases hresult
        obtain ⟨front, rfl, -, hfront⟩ := positions_eq_ok h hpositions hend
        refine ⟨openBracket :: front, hspace, List.cons_ne_nil _ _,
          fun s x hs _ budget hbudget => ?_, fun s x hs _ nesting mayClose => ?_⟩
        · have hlength : (front ++ x).length < s.length := length_lt_of_skipSpace hs
          obtain ⟨s₁, hs₁, hend'⟩ := (hfront x).1 budget (by omega)
          rw [record, hs]
          change (positions fields true budget (front ++ x)).bind _ = _
          rw [hs₁]
          change (endOf closeBracket s₁).bind _ = _
          rw [hend']
          rfl
        · exact (reaches_open_list hs).trans ((hfront x).2 nesting)
    · cases hread

end FeedReader.Json
