import FeedReader.Proofs.Json.Skipping

/-!
# Readers of whole values

A reader is whole if all it takes are values: it takes the same wherever the value stands, and
the value is passed over alike when nobody asks for it.  So two whole readers never differ on
where a value ends.
-/

namespace FeedReader.Json

/-- `front` is a value, which is taken for `a` wherever it stands, blanks before it apart. -/
structure Reads {α : Type} (read : Reader α) (front : Bytes) (a : α) : Prop where
  ne_nil : front ≠ []
  takes : ∀ s x, skipSpace s = front ++ x → EndsNumber x → ∀ budget, s.length < budget →
    read budget s = .ok (a, x)
  passes : ∀ s x, skipSpace s = front ++ x → EndsNumber x → ∀ nesting mayClose,
    Reaches nesting (.value mayClose) s nesting .next x

def Whole {α : Type} (read : Reader α) : Prop :=
  ∀ budget s a rest, read budget s = .ok (a, rest) →
    ∃ front, skipSpace s = front ++ rest ∧ Reads read front a

theorem Reaches.skipValue {s x : Bytes} (h : Reaches [] (.value false) s [] .next x)
    {budget : Nat} (hbudget : s.length < budget) : skipValue budget s = .ok ((), x) := by
  obtain ⟨budget', hbudget', heq⟩ := h budget hbudget
  obtain ⟨budget', rfl⟩ : ∃ k, budget' = k + 1 := ⟨budget' - 1, by omega⟩
  rw [Json.skipValue, heq]
  rfl

theorem length_skipSpace_le (s : Bytes) : (skipSpace s).length ≤ s.length :=
  (List.dropWhile_sublist _).length_le

theorem reads_skipValue {front : Bytes} (h : ∀ x, EndsNumber x → ∀ nesting mayClose,
    Reaches nesting (.value mayClose) (front ++ x) nesting .next x) : Reads skipValue front () := by
  have hpasses : ∀ s x, skipSpace s = front ++ x → EndsNumber x → ∀ nesting mayClose,
      Reaches nesting (.value mayClose) s nesting .next x := by
    intro s x hs hx nesting mayClose
    have hstart : Reaches nesting (.value mayClose) s nesting (.value mayClose) (front ++ x) := by
      rw [← hs]
      exact .of_skipSpace (.inl nofun) (skipSpace_skipSpace s) (length_skipSpace_le s)
    exact hstart.trans (h x hx nesting mayClose)
  refine ⟨?_, fun s x hs hx budget hbudget => ?_, hpasses⟩
  · rintro rfl
    have hnothing : skipValue 1 [] = .ok ((), []) :=
      (hpasses [] [] rfl endsNumber_nil [] false).skipValue (by decide)
    cases hnothing
  · exact (hpasses s x hs hx [] false).skipValue hbudget

theorem whole_skipValue : Whole skipValue := by
  rintro budget s ⟨⟩ rest h
  have hsame : skipValue budget (skipSpace s) = skipValue budget s := by
    cases budget with
    | zero => rfl
    | succ budget => rw [skipValue, skipNested_value, skipNested_value, skipSpace_skipSpace]
  rw [← hsame] at h
  obtain ⟨front, hfront, hreach⟩ := skipNested_reaches h nofun
  refine ⟨front, hfront, reads_skipValue fun x hx nesting mayClose => ?_⟩
  exact hreach (.value mayClose) (.inr ⟨rfl, mayClose, rfl⟩) nesting x hx

theorem Whole.exists_front {α : Type} {read : Reader α} (h : Whole read) {budget : Nat} {s : Bytes}
    {a : α} {rest : Bytes} (hread : read budget s = .ok (a, rest)) :
    ∃ front, s = front ++ rest ∧ ∀ x, EndsNumber x →
      (∀ budget, (front ++ x).length < budget → read budget (front ++ x) = .ok (a, x)) ∧
      ∀ nesting mayClose,
        Reaches nesting (.value mayClose) (front ++ x) nesting .next x := by
  obtain ⟨front, hs, hreads⟩ := h _ _ _ _ hread
  cases front with
  | nil => exact absurd rfl hreads.ne_nil
  | cons b front =>
      obtain ⟨blank, rfl, hblank⟩ := skipSpace_eq_cons hs
      refine ⟨blank ++ b :: front, by simp, fun x hx => ?_⟩
      have hspace : skipSpace (blank ++ b :: front ++ x) = b :: front ++ x := by simp [hblank]
      exact ⟨hreads.takes _ x hspace hx, hreads.passes _ x hspace hx⟩

theorem Whole.agree {α : Type} {read : Reader α} (h : Whole read) {front s x rest : Bytes}
    {budget : Nat} {a : α} (hfront : Reads skipValue front ()) (hs : skipSpace s = front ++ x)
    (hx : EndsNumber x) (hread : read budget s = .ok (a, rest)) (hrest : EndsNumber rest) :
    rest = x ∧ Reads read front a := by
  obtain ⟨front', hs', hreads⟩ := h _ _ _ _ hread
  have hskip := hfront.takes s x hs hx (s.length + 1) (Nat.lt_succ_self _)
  have hskip' := (hreads.passes s rest hs' hrest [] false).skipValue (Nat.lt_succ_self s.length)
  rw [hskip, Except.ok.injEq, Prod.mk.injEq] at hskip'
  obtain ⟨-, rfl⟩ := hskip'
  rw [hs, List.append_cancel_right_eq] at hs'
  exact ⟨rfl, hs' ▸ hreads⟩

/-! ## Scalars -/

theorem reads_scalar {α : Type} {read : Reader α} {b : UInt8} {front : Bytes} {a : α}
    (hclose : b ≠ closeBracket) (hlist : b ≠ openBracket) (hobject : b ≠ openBrace)
    (h : ∀ x, EndsNumber x → ∀ budget, (front ++ x).length < budget →
      (∀ s, skipSpace s = b :: (front ++ x) → read budget s = .ok (a, x)) ∧
      skipScalar budget b (front ++ x) = .ok ((), x)) :
    Reads read (b :: front) a where
  ne_nil := List.cons_ne_nil _ _
  takes s x hs hx budget hbudget :=
    (h x hx budget (Nat.lt_trans (length_lt_of_skipSpace hs) hbudget)).1 s hs
  passes s x hs hx nesting mayClose :=
    reaches_scalar hs hclose hlist hobject (by simp) fun budget hbudget => (h x hx budget hbudget).2

theorem whole_string : Whole string := by
  intro budget s text rest h
  rw [string] at h
  split at h
  · cases h
  · next b s' hspace =>
      split at h
      · next hb =>
          subst hb
          obtain ⟨front, rfl, hreads, hwritten⟩ := takes_stringTail h
          refine ⟨quote :: front, hspace, reads_scalar (by decide) (by decide) (by decide)
            fun x _ budget hbudget => ⟨fun s hs => ?_, hwritten.takes x budget hbudget⟩⟩
          rw [string, hs]
          exact hreads x budget hbudget
      · cases h

theorem whole_boolean : Whole boolean := by
  have hword : ∀ {b : UInt8} {expected s rest : Bytes} {value : Bool}, b ≠ closeBracket →
      b ≠ openBracket → b ≠ openBrace →
      (∀ budget x, skipScalar budget b x = word expected x) →
      (∀ budget s x, skipSpace s = b :: x →
        boolean budget s = (word expected x).map fun r => (value, r.2)) →
      word expected s = .ok ((), rest) →
      ∃ front, b :: s = front ++ rest ∧ Reads boolean front value := by
    intro b expected s rest value hclose hlist hobject hskip hread h
    obtain rfl := eq_append_of_word h
    refine ⟨b :: expected, rfl, reads_scalar hclose hlist hobject fun x _ budget _ =>
      ⟨fun s hs => ?_, ?_⟩⟩
    · rw [hread budget s _ hs, fixes_word]
      rfl
    · rw [hskip, fixes_word]
  intro budget s value rest h
  rw [boolean] at h
  split at h
  · cases h
  · next b s' hspace =>
      split at h
      · next hb =>
          subst hb
          obtain ⟨⟨⟨⟩, s''⟩, hread, hvalue⟩ := ok_of_map h
          cases hvalue
          rw [hspace]
          refine hword (by decide) (by decide) (by decide) (fun _ _ => rfl)
            (fun budget s x hs => ?_) hread
          rw [boolean, hs]
          rfl
      · split at h
        · next hb =>
            subst hb
            obtain ⟨⟨⟨⟩, s''⟩, hread, hvalue⟩ := ok_of_map h
            cases hvalue
            rw [hspace]
            refine hword (by decide) (by decide) (by decide) (fun _ _ => rfl)
              (fun budget s x hs => ?_) hread
            rw [boolean, hs]
            rfl
        · cases h

theorem whole_count : Whole count := by
  intro budget s n rest h
  rw [count] at h
  split at h
  · cases h
  next b s' hspace =>
  split at h
  · dsimp only at h
    split at h
    · obtain ⟨⟨number, s''⟩, hnumber, hresult⟩ := ok_of_bind h
      cases number with
      | other => cases hresult
      | count n' => cases (numberTail_eq_ok hnumber).1
    next hminus =>
    obtain ⟨⟨number, s''⟩, hnumber, hresult⟩ := ok_of_bind h
    cases number with
    | other => cases hresult
    | count n' =>
        cases hresult
        obtain ⟨-, d, digits, hs', hd, hreads⟩ := numberTail_eq_ok hnumber
        obtain ⟨rfl, rfl⟩ := List.cons.inj hs'
        have hnot : ∀ c, isDigit c = false → b ≠ c := by
          rintro c hc rfl
          rw [hd] at hc
          cases hc
        have hscalar : ∀ budget x, skipScalar budget b x = skipNumber (b :: x) := by
          intro budget x
          rw [skipScalar, if_neg (hnot _ rfl), if_neg (hnot _ rfl), if_neg (hnot _ rfl),
            if_neg hminus, if_pos hd]
        refine ⟨b :: digits, hspace, reads_scalar (hnot _ rfl) (hnot _ rfl) (hnot _ rfl)
          fun x hx budget _ => ⟨fun s hs => ?_, ?_⟩⟩
        · rw [count, hs]
          simp only [hd, Bool.or_true, if_true, if_neg hminus]
          rw [← List.cons_append, (hreads x hx).1]
          rfl
        · rw [hscalar]
          exact (hreads x hx).2
  · cases h

/-! ## Readers made of others -/

theorem Reads.map {α β : Type} {read : Reader α} {read' : Reader β} {front : Bytes} {a : α} {b : β}
    (h : Reads read front a)
    (hread : ∀ budget s x, read budget s = .ok (a, x) → read' budget s = .ok (b, x)) :
    Reads read' front b :=
  ⟨h.ne_nil, fun s x hs hx budget hbudget => hread budget s x (h.takes s x hs hx budget hbudget),
    h.passes⟩

theorem Whole.map {α β : Type} {read : Reader α} (h : Whole read) (f : α → β) :
    Whole fun budget s => (read budget s).map fun r => (f r.1, r.2) := by
  intro budget s b rest hread
  obtain ⟨⟨a, s'⟩, ha, hb⟩ := ok_of_map hread
  cases hb
  obtain ⟨front, hs, hreads⟩ := h _ _ _ _ ha
  refine ⟨front, hs, hreads.map fun budget s x hx => ?_⟩
  rw [hx]
  rfl

theorem Whole.refine {α β : Type} {read : Reader α} (h : Whole read) (interpret : α → Option β) :
    Whole (refine read interpret) := by
  intro budget s b rest hread
  obtain ⟨⟨a, s'⟩, ha, hb⟩ := ok_of_bind hread
  obtain ⟨front, hs, hreads⟩ := h _ _ _ _ ha
  dsimp only at hb
  split at hb
  · next b' hinterpret =>
      cases hb
      refine ⟨front, hs, hreads.map fun budget s x hx => ?_⟩
      simp [Json.refine, hx, bind, Except.bind, hinterpret, pure, Except.pure]
  · cases hb

theorem Whole.optional {α : Type} {read : Reader α} (h : Whole read) : Whole (optional read) := by
  have hother : ∀ {budget s}, (skipSpace s).head? ≠ some 0x6e →
      Json.optional read budget s = (read budget (skipSpace s)).map fun r => (some r.1, r.2) := by
    intro budget s hhead
    unfold Json.optional
    split
    · next heq => exact absurd (congrArg List.head? heq) hhead
    · rfl
  intro budget s a rest hread
  by_cases hnull : (skipSpace s).head? = some 0x6e
  · obtain ⟨s', hs'⟩ := List.head?_eq_some_iff.mp hnull
    have hoptional : ∀ budget s x, skipSpace s = 0x6e :: x →
        Json.optional read budget s = (word nullRest x).map fun r => (none, r.2) := by
      intro budget s x hs
      unfold Json.optional
      rw [hs]
      rfl
    rw [hoptional budget s s' hs'] at hread
    obtain ⟨⟨⟨⟩, s''⟩, hword, ha⟩ := ok_of_map hread
    cases ha
    obtain rfl := eq_append_of_word hword
    refine ⟨0x6e :: nullRest, hs', reads_scalar (by decide) (by decide) (by decide)
      fun x _ budget _ => ⟨fun s hs => ?_, ?_⟩⟩
    · rw [hoptional budget s _ hs, fixes_word]
      rfl
    · exact fixes_word nullRest x
  · rw [hother hnull] at hread
    obtain ⟨⟨a, s'⟩, ha, hb⟩ := ok_of_map hread
    cases hb
    obtain ⟨front, hs, hreads⟩ := h _ _ _ _ ha
    rw [skipSpace_skipSpace] at hs
    refine ⟨front, hs, hreads.ne_nil, fun s₂ x hs₂ hx budget hbudget => ?_, hreads.passes⟩
    have hhead : (skipSpace s₂).head? ≠ some 0x6e := by
      rw [hs₂]
      rw [hs] at hnull
      cases front with
      | nil => exact absurd rfl hreads.ne_nil
      | cons b front => exact hnull
    have hlength := length_skipSpace_le s₂
    rw [hother hhead, hreads.takes _ x (by rw [skipSpace_skipSpace, hs₂]) hx budget (by omega)]
    rfl

/-! ## Lists -/

def inList (first : Bool) : SkipState := if first then .value true else .next

theorem reaches_end_list {nesting x : Bytes} {first : Bool} :
    Reaches (openBracket :: nesting) (inList first) (closeBracket :: x) nesting .next x := by
  cases first with
  | true => exact reaches_close_list rfl
  | false => exact reaches_close rfl

theorem Reaches.skipSpace_of_ne_nil {nesting s x : Bytes} {state : SkipState}
    (hnesting : nesting ≠ []) (h : skipSpace s = x) :
    Reaches nesting state s nesting state x :=
  .of_skipSpace (.inr hnesting) (by rw [← h, skipSpace_skipSpace]) (h ▸ length_skipSpace_le s)

theorem nextItem_eq_ok {first more : Bool} {s s' : Bytes} (h : nextItem first s = .ok (more, s')) :
    ∃ before c tail, s = before ++ c :: tail ∧ s' = c :: tail ∧ (more = false → c = closeBracket) ∧
      ∀ x, skipSpace (c :: x) = c :: x ∧ nextItem first (before ++ c :: x) = .ok (more, c :: x) ∧
        ∀ nesting, Reaches (openBracket :: nesting) (inList first) (before ++ c :: x)
          (openBracket :: nesting) (if more then .value first else inList first) (c :: x) := by
  have hkept : ∀ {s c x}, skipSpace s = c :: x → ∀ y, skipSpace (c :: y) = c :: y :=
    fun hs y => List.dropWhile_cons_of_neg (not_isSpace_of_skipSpace hs)
  rw [nextItem] at h
  split at h
  · cases h
  next b s₁ hspace =>
  obtain ⟨blank, rfl, hblank⟩ := skipSpace_eq_cons hspace
  split at h
  · next hb =>
      subst hb
      cases h
      refine ⟨blank, closeBracket, s₁, rfl, rfl, fun _ => rfl, fun x => ⟨hkept hspace x, ?_,
        fun nesting => .skipSpace_of_ne_nil nofun (hblank x)⟩⟩
      rw [nextItem, hblank]
      rfl
  next hb =>
  cases first with
  | true =>
      cases h
      refine ⟨blank, b, s₁, rfl, rfl, nofun, fun x => ⟨hkept hspace x, ?_,
        fun nesting => .skipSpace_of_ne_nil nofun (hblank x)⟩⟩
      rw [nextItem, hblank]
      simp [hb]
  | false =>
      rw [if_neg Bool.false_ne_true] at h
      split at h
      · next hcomma =>
          subst hcomma
          split at h
          · cases h
          next c s₂ hspace' =>
          obtain ⟨hc, hresult⟩ := ok_of_guard h
          cases hresult
          obtain ⟨blank', rfl, hblank'⟩ := skipSpace_eq_cons hspace'
          refine ⟨blank ++ comma :: blank', c, s₂, by simp, rfl, nofun, fun x =>
            ⟨hkept hspace' x, ?_, fun nesting => ?_⟩⟩
          · rw [List.append_assoc, List.cons_append, nextItem, hblank]
            simp [hb, hblank', hc]
          · have hcomma : Reaches (openBracket :: nesting) .next
                (blank ++ comma :: (blank' ++ c :: x)) (openBracket :: nesting) (.value false)
                (blank' ++ c :: x) := reaches_comma (hblank _)
            rw [List.append_assoc, List.cons_append]
            exact hcomma.trans (.skipSpace_of_ne_nil nofun (hblank' x))
      · cases h

theorem endsNumber_of_nextItem {s : Bytes} {r : Bool × Bytes} (h : nextItem false s = .ok r) :
    EndsNumber s := by
  rw [nextItem] at h
  split at h
  · cases h
  next b s' hspace =>
  split at h
  · next hb => exact endsNumber_of_head hspace (hb ▸ rfl)
  · rw [if_neg Bool.false_ne_true] at h
    split at h
    · next hb => exact endsNumber_of_head hspace (hb ▸ rfl)
    · cases h

theorem items_succ {α : Type} (read : Reader α) (found : List α) (budget : Nat) (s : Bytes) :
    items read found (budget + 1) s = (nextItem found.isEmpty s).bind fun r =>
      if r.1 then (read budget r.2).bind fun item => items read (item.1 :: found) budget item.2
      else (endOf closeBracket r.2).bind fun r => .ok (found.reverse, r.2) := by
  rw [items]
  cases nextItem found.isEmpty s with
  | error fault => rfl
  | ok r =>
      obtain ⟨_ | _, s'⟩ := r <;> rfl

theorem endsNumber_of_items {α : Type} {read : Reader α} {found : List α} {budget : Nat} {s : Bytes}
    {r : List α × Bytes} (hfound : found.isEmpty = false) (h : items read found budget s = .ok r) :
    EndsNumber s := by
  cases budget with
  | zero => cases h
  | succ budget =>
      rw [items_succ, hfound] at h
      obtain ⟨next, hnext, -⟩ := ok_of_bind h
      exact endsNumber_of_nextItem hnext

theorem Whole.exists_item {α : Type} {read : Reader α} (h : Whole read) {first : Bool}
    {budget : Nat} {s s₁ s₂ : Bytes} {a : α} (hnext : nextItem first s = .ok (true, s₁))
    (hread : read budget s₁ = .ok (a, s₂)) :
    ∃ front, s = front ++ s₂ ∧ front ≠ [] ∧ ∀ x, EndsNumber x →
      (∃ s', nextItem first (front ++ x) = .ok (true, s') ∧ s'.length ≤ (front ++ x).length ∧
        ∀ budget, s'.length < budget → read budget s' = .ok (a, x)) ∧
      ∀ nesting, Reaches (openBracket :: nesting) (inList first) (front ++ x)
        (openBracket :: nesting) .next x := by
  obtain ⟨before, c, tail, rfl, rfl, -, hitem⟩ := nextItem_eq_ok hnext
  obtain ⟨front, hs₁, hreads⟩ := h _ _ _ _ hread
  rw [(hitem tail).1] at hs₁
  cases front with
  | nil => exact absurd rfl hreads.ne_nil
  | cons c' front =>
      obtain ⟨rfl, rfl⟩ := List.cons.inj hs₁
      refine ⟨before ++ c :: front, by simp, by simp, fun x hx => ?_⟩
      obtain ⟨hspace, hnext', hreach⟩ := hitem (front ++ x)
      rw [List.append_assoc, List.cons_append]
      exact ⟨⟨_, hnext', by simp, hreads.takes _ x hspace hx⟩, fun nesting =>
        (hreach nesting).trans (hreads.passes _ x hspace hx _ _)⟩

theorem items_eq_ok {α : Type} {read : Reader α} (hread : Whole read) {found items' : List α}
    {budget : Nat} {s rest : Bytes} (h : items read found budget s = .ok (items', rest)) :
    ∃ front, s = front ++ rest ∧ ∀ x,
      (∀ budget, (front ++ x).length + 1 < budget →
        items read found budget (front ++ x) = .ok (items', x)) ∧
      ∀ nesting, Reaches (openBracket :: nesting) (inList found.isEmpty) (front ++ x)
        nesting .next x := by
  induction budget generalizing found s with
  | zero => cases h
  | succ budget ih =>
      rw [items_succ] at h
      obtain ⟨⟨more, s₁⟩, hnext, hrest⟩ := ok_of_bind h
      cases more with
      | false =>
          obtain ⟨before, c, tail, rfl, rfl, hclose, hitem⟩ := nextItem_eq_ok hnext
          obtain rfl := hclose rfl
          cases hrest
          refine ⟨before ++ [closeBracket], by simp, fun x => ?_⟩
          obtain ⟨-, hnext', hreach⟩ := hitem x
          rw [List.append_assoc, List.singleton_append]
          refine ⟨fun budget hbudget => ?_, fun nesting => (hreach nesting).trans reaches_end_list⟩
          obtain ⟨budget, rfl⟩ := Nat.exists_eq_add_one.mpr (Nat.zero_lt_of_lt hbudget)
          rw [items_succ, hnext']
          rfl
      | true =>
          obtain ⟨⟨a, s₂⟩, ha, hitems⟩ := ok_of_bind hrest
          obtain ⟨front₁, rfl, hne, hfront₁⟩ := hread.exists_item hnext ha
          obtain ⟨front₂, rfl, hfront₂⟩ := ih hitems
          refine ⟨front₁ ++ front₂, (List.append_assoc ..).symm, fun x => ?_⟩
          obtain ⟨htakes, hpasses⟩ := hfront₂ x
          have hends : EndsNumber (front₂ ++ x) :=
            endsNumber_of_items rfl (htakes _ (Nat.lt_succ_self _))
          obtain ⟨⟨s', hnext', hlength, hvalue⟩, hreach⟩ := hfront₁ _ hends
          rw [List.append_assoc]
          refine ⟨fun budget hbudget => ?_, fun nesting =>
            (hreach nesting).trans (hpasses nesting)⟩
          have hpositive := List.length_pos_iff.mpr hne
          obtain ⟨budget, rfl⟩ := Nat.exists_eq_add_one.mpr (Nat.zero_lt_of_lt hbudget)
          rw [items_succ, hnext']
          simp only [Except.bind, if_true]
          rw [hvalue budget (by omega)]
          rw [List.length_append] at hbudget
          exact htakes budget (by omega)

theorem Whole.list {α : Type} {read : Reader α} (h : Whole read) : Whole (list read) := by
  intro budget s items' rest hread
  rw [Json.list] at hread
  split at hread
  · cases hread
  next b s' hspace =>
  split at hread
  · next hb =>
      subst hb
      obtain ⟨front, rfl, hfront⟩ := items_eq_ok h hread
      refine ⟨openBracket :: front, hspace, List.cons_ne_nil _ _,
        fun s x hs _ budget hbudget => ?_, fun s x hs _ nesting mayClose => ?_⟩
      · have hlength : (front ++ x).length < s.length := length_lt_of_skipSpace hs
        rw [Json.list, hs]
        exact (hfront x).1 budget (by omega)
      · exact (reaches_open_list hs).trans ((hfront x).2 nesting)
  · cases hread

end FeedReader.Json
