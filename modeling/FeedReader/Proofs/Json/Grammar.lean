import FeedReader.Proofs.Json.Readers

/-!
# Texts that hold one value

The grammar of values, apart from any reader.  Whatever it allows is passed over, wherever it
stands; so what is read of a text by itself is what is read of it inside of another text.
-/

namespace FeedReader.Json

/-! ## The grammar -/

def IsBlank (s : Bytes) : Prop := ∀ b ∈ s, isSpace b = true

inductive Part where
  | value
  | padded
  | items
  | member
  | members
  deriving DecidableEq, Repr

/-- Items and members are those that remain, up to the closing bracket or brace. -/
inductive Written : Part → Bytes → Prop
  | null : Written .value (0x6e :: nullRest)
  | yes : Written .value (0x74 :: trueRest)
  | no : Written .value (0x66 :: falseRest)
  | number {whole fraction exponent : Bytes} (hnumber : IsNumber whole fraction exponent) :
      Written .value (whole ++ (fraction ++ exponent))
  | negative {whole fraction exponent : Bytes} (hnumber : IsNumber whole fraction exponent) :
      Written .value (minus :: (whole ++ (fraction ++ exponent)))
  | string {s : Bytes} (hstring : WrittenString s) : Written .value (quote :: s)
  | emptyList {blank : Bytes} (hblank : IsBlank blank) :
      Written .value (openBracket :: (blank ++ [closeBracket]))
  | list {s : Bytes} (hitems : Written .items s) : Written .value (openBracket :: s)
  | emptyObject {blank : Bytes} (hblank : IsBlank blank) :
      Written .value (openBrace :: (blank ++ [closeBrace]))
  | object {s : Bytes} (hmembers : Written .members s) : Written .value (openBrace :: s)
  | padded {before value after : Bytes} (hbefore : IsBlank before)
      (hvalue : Written .value value) (hafter : IsBlank after) :
      Written .padded (before ++ (value ++ after))
  | lastItem {t : Bytes} (hitem : Written .padded t) : Written .items (t ++ [closeBracket])
  | item {t s : Bytes} (hitem : Written .padded t) (hitems : Written .items s) :
      Written .items (t ++ comma :: s)
  | member {before name between t : Bytes} (hbefore : IsBlank before) (hname : WrittenString name)
      (hbetween : IsBlank between) (hvalue : Written .padded t) :
      Written .member (before ++ quote :: (name ++ (between ++ colon :: t)))
  | lastMember {t : Bytes} (hmember : Written .member t) : Written .members (t ++ [closeBrace])
  | nextMember {t s : Bytes} (hmember : Written .member t) (hmembers : Written .members s) :
      Written .members (t ++ comma :: s)

/-- A text that holds one value and nothing else. -/
def IsText (t : Bytes) : Prop := Written .padded t

theorem Written.alone {t : Bytes} (h : Written .value t) : Written .padded t := by
  simpa using @Written.padded [] t [] (List.forall_mem_nil _) h (List.forall_mem_nil _)

/-! ## Blanks -/

theorem IsBlank.skipSpace_append {blank : Bytes} (h : IsBlank blank) (x : Bytes) :
    skipSpace (blank ++ x) = skipSpace x :=
  List.dropWhile_append_of_pos h

theorem skipSpace_cons {b : UInt8} (hb : isSpace b = false) (x : Bytes) :
    skipSpace (b :: x) = b :: x :=
  List.dropWhile_cons_of_neg (by simp [hb])

theorem IsBlank.endsNumber {blank x : Bytes} (h : IsBlank blank) (hx : EndsNumber x) :
    EndsNumber (blank ++ x) := by
  cases blank with
  | nil => exact hx
  | cons b blank => exact endsNumber_of_space (h b List.mem_cons_self)

theorem IsBlank.reaches {blank x nesting : Bytes} {state : SkipState} (h : IsBlank blank)
    (hopen : state ≠ .next ∨ nesting ≠ []) : Reaches nesting state (blank ++ x) nesting state x :=
  .of_skipSpace hopen (h.skipSpace_append x).symm (by simp)

/-! ## Passing over -/

theorem ne_of_isDigit {d b : UInt8} (h : isDigit d = true) (hb : isDigit b = false) : d ≠ b := by
  rintro rfl
  rw [h] at hb
  cases hb

theorem isSpace_of_isDigit {d : UInt8} (h : isDigit d = true) : isSpace d = false := by
  simp [isSpace, ne_of_isDigit h (b := 0x20) rfl, ne_of_isDigit h (b := 0x0a) rfl,
    ne_of_isDigit h (b := 0x09) rfl, ne_of_isDigit h (b := 0x0d) rfl]

theorem reaches_number {whole fraction exponent x nesting : Bytes} {mayClose : Bool}
    (h : IsNumber whole fraction exponent) (hx : EndsNumber x) :
    Reaches nesting (.value mayClose) (whole ++ (fraction ++ exponent) ++ x) nesting .next x := by
  obtain ⟨d, digits, rfl, hd⟩ := h.digits.exists_head
  have hne : ∀ {b}, isDigit b = false → d ≠ b := ne_of_isDigit hd
  have hskip : skipNumber (d :: digits ++ (fraction ++ (exponent ++ x))) = .ok ((), x) :=
    h.skipNumber hx
  simp only [List.append_assoc, List.cons_append] at hskip ⊢
  refine reaches_scalar (skipSpace_cons (isSpace_of_isDigit hd) _) (hne rfl) (hne rfl) (hne rfl)
    (by simp; omega) fun budget _ => ?_
  rw [skipScalar, if_neg (hne rfl), if_neg (hne rfl), if_neg (hne rfl), if_neg (hne rfl), if_pos hd,
    hskip]

def Part.Passes : Part → Bytes → Prop
  | .value, t => ∀ x, EndsNumber x → ∀ nesting mayClose,
      Reaches nesting (.value mayClose) (t ++ x) nesting .next x
  | .padded, t => ∀ x, EndsNumber x → ∀ frame nesting mayClose,
      Reaches (frame :: nesting) (.value mayClose) (t ++ x) (frame :: nesting) .next x
  | .items, t => ∀ x nesting mayClose,
      Reaches (openBracket :: nesting) (.value mayClose) (t ++ x) nesting .next x
  | .member, t => ∀ x, EndsNumber x → ∀ nesting mayClose,
      Reaches (openBrace :: nesting) (.name mayClose) (t ++ x) (openBrace :: nesting) .next x
  | .members, t => ∀ x nesting mayClose,
      Reaches (openBrace :: nesting) (.name mayClose) (t ++ x) nesting .next x

theorem reaches_comma_list (x nesting : Bytes) :
    Reaches (openBracket :: nesting) .next (comma :: x) (openBracket :: nesting) (.value false) x :=
  reaches_comma rfl

theorem reaches_comma_object (x nesting : Bytes) :
    Reaches (openBrace :: nesting) .next (comma :: x) (openBrace :: nesting) (.name false) x :=
  reaches_comma rfl

theorem Written.passes {part : Part} {t : Bytes} (h : Written part t) : part.Passes t := by
  have hends : ∀ {b x}, continuesNumber b = false → EndsNumber (b :: x) := endsNumber_cons
  induction h with
  | null =>
      intro x _ nesting mayClose
      exact reaches_scalar rfl (by decide) (by decide) (by decide) (by simp)
        fun _ _ => fixes_word nullRest x
  | yes =>
      intro x _ nesting mayClose
      exact reaches_scalar rfl (by decide) (by decide) (by decide) (by simp)
        fun _ _ => fixes_word trueRest x
  | no =>
      intro x _ nesting mayClose
      exact reaches_scalar rfl (by decide) (by decide) (by decide) (by simp)
        fun _ _ => fixes_word falseRest x
  | number hnumber =>
      intro x hx nesting mayClose
      exact reaches_number hnumber hx
  | @negative whole fraction exponent hnumber =>
      intro x hx nesting mayClose
      have hskip := hnumber.skipNumber hx
      rw [List.cons_append]
      refine reaches_scalar rfl (by decide) (by decide) (by decide) (by simp; omega)
        fun budget _ => ?_
      rw [List.append_assoc, List.append_assoc]
      exact hskip
  | string hstring =>
      intro x _ nesting mayClose
      exact reaches_scalar rfl (by decide) (by decide) (by decide) (by simp) (hstring.takes x)
  | @emptyList blank hblank =>
      intro x _ nesting mayClose
      have hspace : skipSpace (blank ++ [closeBracket] ++ x) = closeBracket :: x := by
        rw [List.append_assoc, hblank.skipSpace_append]
        rfl
      exact (reaches_open_list rfl).trans (reaches_close_list hspace)
  | list _ ih =>
      intro x _ nesting mayClose
      exact (reaches_open_list rfl).trans (ih x nesting true)
  | @emptyObject blank hblank =>
      intro x _ nesting mayClose
      have hspace : skipSpace (blank ++ [closeBrace] ++ x) = closeBrace :: x := by
        rw [List.append_assoc, hblank.skipSpace_append]
        rfl
      exact (reaches_open_object rfl).trans (reaches_close_object hspace)
  | object _ ih =>
      intro x _ nesting mayClose
      exact (reaches_open_object rfl).trans (ih x nesting true)
  | @padded before value after hbefore _ hafter ih =>
      intro x hx frame nesting mayClose
      have hstart : Reaches (frame :: nesting) (.value mayClose) (before ++ (value ++ (after ++ x)))
          (frame :: nesting) (.value mayClose) (value ++ (after ++ x)) :=
        hbefore.reaches (.inl nofun)
      have hvalue := ih (after ++ x) (hafter.endsNumber hx) (frame :: nesting) mayClose
      rw [List.append_assoc, List.append_assoc]
      exact hstart.trans (hvalue.trans (hafter.reaches (.inr (List.cons_ne_nil _ _))))
  | lastItem _ ih =>
      intro x nesting mayClose
      rw [List.append_assoc]
      exact (ih _ (hends rfl) _ _ _).trans (reaches_close rfl)
  | item _ _ ih ihItems =>
      intro x nesting mayClose
      rw [List.append_assoc]
      exact (ih _ (hends rfl) _ _ _).trans
        ((reaches_comma_list _ _).trans (ihItems x nesting false))
  | @member before name between t hbefore hname hbetween _ ih =>
      intro x hx nesting mayClose
      have hcolon : ∀ y, skipSpace (between ++ colon :: y) = colon :: y :=
        fun y => hbetween.skipSpace_append _
      have hstart : Reaches (openBrace :: nesting) (.name mayClose)
          (before ++ quote :: (name ++ (between ++ [colon]) ++ (t ++ x)))
          (openBrace :: nesting) (.value false) (t ++ x) :=
        reaches_name (hbefore.skipSpace_append _) (by simp; omega)
          (takes_skipName hname hcolon (t ++ x))
      have hsame : before ++ quote :: (name ++ (between ++ colon :: t)) ++ x =
          before ++ quote :: (name ++ (between ++ [colon]) ++ (t ++ x)) := by simp
      rw [hsame]
      exact hstart.trans (ih x hx openBrace nesting false)
  | lastMember _ ih =>
      intro x nesting mayClose
      rw [List.append_assoc]
      exact (ih _ (hends rfl) _ _).trans (reaches_close rfl)
  | nextMember _ _ ih ihMembers =>
      intro x nesting mayClose
      rw [List.append_assoc]
      exact (ih _ (hends rfl) _ _).trans
        ((reaches_comma_object _ _).trans (ihMembers x nesting false))

end FeedReader.Json
