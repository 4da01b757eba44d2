import FeedReader.Proofs.Splits
import FeedReader.Proofs.Text.Utf8
import FeedReader.Url.Encoding

/-!
# Encodings read back

Percent encoding gives back the bytes of a text when the percent sign is escaped too, and
form encoding gives back every list of pairs.  No encoding holds a character that it
escapes, the percent sign and the hexadecimal digits excepted.
-/

namespace FeedReader.Url

open Text (encode encodeChar)

/-! ## Percent encoding -/

theorem hexValue?_upperHex {n : Nat} (h : n < 16) : hexValue? (upperHex n) = some n := by
  interval_cases n <;> rfl

theorem percentDecode_escapeByte (b : UInt8) (s : List Char) :
    percentDecode (escapeByte b ++ s) = b :: percentDecode s := by
  have hb : b.toNat < 256 := b.toNat_lt
  have hhigh := hexValue?_upperHex (n := b.toNat / 16) (by omega)
  have hlow := hexValue?_upperHex (n := b.toNat % 16) (by omega)
  have hback : b.toNat / 16 * 16 + b.toNat % 16 = b.toNat := Nat.div_add_mod' ..
  rw [escapeByte, List.cons_append, List.cons_append, List.cons_append, List.nil_append,
    percentDecode, hhigh, hlow]
  change UInt8.ofNat (b.toNat / 16 * 16 + b.toNat % 16) :: _ = _
  rw [hback, UInt8.ofNat_toNat]

theorem percentDecode_flatMap_escapeByte (bytes : List UInt8) (s : List Char) :
    percentDecode (bytes.flatMap escapeByte ++ s) = bytes ++ percentDecode s := by
  induction bytes with
  | nil => rfl
  | cons b bytes ih =>
      rw [List.flatMap_cons, List.append_assoc, percentDecode_escapeByte, ih, List.cons_append]

theorem percentDecode_cons {c : Char} (h : c ≠ '%') (s : List Char) :
    percentDecode (c :: s) = encodeChar c ++ percentDecode s := by
  rw [percentDecode]
  exact fun _ _ _ hc _ => h hc

theorem percentDecode_percentEncode {escaped : Char → Bool} (h : escaped '%' = true)
    (s : List Char) : percentDecode (percentEncode escaped s) = s.flatMap encodeChar := by
  induction s with
  | nil => rfl
  | cons c s ih =>
      rw [percentEncode, List.flatMap_cons, ← percentEncode, List.flatMap_cons]
      split
      · rw [escapeChar, percentDecode_flatMap_escapeByte, ih]
      · next hplain =>
          have hsign : c ≠ '%' := by
            rintro rfl
            exact hplain h
          rw [List.singleton_append, percentDecode_cons hsign, ih]

theorem not_mem_escapeByte {c : Char} (hsign : c ≠ '%') (hdigit : hexValue? c = none)
    (b : UInt8) : c ∉ escapeByte b := by
  have hb : b.toNat < 256 := b.toNat_lt
  have hne : ∀ n, n < 16 → c ≠ upperHex n := by
    rintro n hn rfl
    rw [hexValue?_upperHex hn] at hdigit
    cases hdigit
  simp only [escapeByte, List.mem_cons, List.not_mem_nil, or_false, not_or]
  exact ⟨hsign, hne _ (by omega), hne _ (by omega)⟩

theorem not_mem_percentEncode {escaped : Char → Bool} {c : Char} (hescaped : escaped c = true)
    (hsign : c ≠ '%') (hdigit : hexValue? c = none) (s : List Char) :
    c ∉ percentEncode escaped s := by
  intro hmem
  obtain ⟨d, -, hd⟩ := List.mem_flatMap.mp hmem
  split at hd
  · obtain ⟨b, -, hb⟩ := List.mem_flatMap.mp hd
    exact not_mem_escapeByte hsign hdigit b hb
  · next hplain =>
      obtain rfl := List.mem_singleton.mp hd
      exact hplain hescaped

/-! ## Form encoding -/

def plusAsSpace (c : Char) : Char := if c = '+' then ' ' else c

theorem standsInForm_iff (b : UInt8) :
    standsInForm b = true ↔
      48 ≤ b.toNat ∧ b.toNat ≤ 57 ∨ 65 ≤ b.toNat ∧ b.toNat ≤ 90 ∨ 97 ≤ b.toNat ∧ b.toNat ≤ 122 ∨
        b.toNat = 42 ∨ b.toNat = 45 ∨ b.toNat = 46 ∨ b.toNat = 95 := by
  simp [standsInForm, UInt8.le_iff_toNat_le, ← UInt8.toNat_inj, or_assoc]

theorem toNat_charOfByte (b : UInt8) : (Char.ofNat b.toNat).toNat = b.toNat := by
  have hvalid : b.toNat.isValidChar := .inl (Nat.lt_trans b.toNat_lt (by decide))
  rw [Char.ofNat, dif_pos hvalid]
  rfl

theorem map_plusAsSpace_escapeByte (b : UInt8) :
    (escapeByte b).map plusAsSpace = escapeByte b := by
  have hplus : '+' ∉ escapeByte b := not_mem_escapeByte (by decide) (by decide) b
  have hkeep : ∀ c ∈ escapeByte b, plusAsSpace c = id c := by
    intro c hc
    rw [plusAsSpace, if_neg]
    · rfl
    · rintro rfl
      exact hplus hc
  rw [List.map_congr_left hkeep, List.map_id]

theorem percentDecode_map_formByte (b : UInt8) (s : List Char) :
    percentDecode ((formByte b).map plusAsSpace ++ s) = b :: percentDecode s := by
  rw [formByte]
  split
  · next hstands =>
      rw [standsInForm_iff] at hstands
      have hnat := toNat_charOfByte b
      have hplus : Char.ofNat b.toNat ≠ '+' := by
        intro heq
        rw [heq] at hnat
        change 43 = _ at hnat
        omega
      have hsign : Char.ofNat b.toNat ≠ '%' := by
        intro heq
        rw [heq] at hnat
        change 37 = _ at hnat
        omega
      rw [List.map_singleton, plusAsSpace, if_neg hplus, List.singleton_append,
        percentDecode_cons hsign, Text.encodeChar_of_ascii (by omega), hnat,
        List.singleton_append]
      exact congrArg (· :: percentDecode s) UInt8.ofNat_toNat
  · split
    · next hblank =>
        subst hblank
        exact percentDecode_cons (by decide) s
    · rw [map_plusAsSpace_escapeByte, percentDecode_escapeByte]

theorem formDecode_formEncode (s : String) : formDecode (formEncode s) = s := by
  have hbytes : ∀ bytes : List UInt8,
      percentDecode ((bytes.flatMap formByte).map plusAsSpace) = bytes := by
    intro bytes
    induction bytes with
    | nil => rfl
    | cons b bytes ih =>
        rw [List.flatMap_cons, List.map_append, percentDecode_map_formByte, ih]
  change String.ofList (Text.decodeLossy (percentDecode ((formEncode s).map plusAsSpace))) = s
  rw [formEncode, hbytes, Text.encode_eq_flatMap, Text.decodeLossy_flatMap_encodeChar,
    String.ofList_toList]

/-- The characters that form encoding leaves to divide a form and to end it. -/
def isFormMark (c : Char) : Bool := c = '&' || c = '=' || c = '#'

theorem not_mem_formEncode {c : Char} (h : isFormMark c = true) (s : String) :
    c ∉ formEncode s := by
  have hc : c = '&' ∨ c = '=' ∨ c = '#' := by simpa [isFormMark, or_assoc] using h
  intro hmem
  obtain ⟨b, -, hb⟩ := List.mem_flatMap.mp hmem
  rw [formByte] at hb
  split at hb
  · next hstands =>
      rw [standsInForm_iff] at hstands
      have hnat := toNat_charOfByte b
      rw [← List.mem_singleton.mp hb] at hnat
      obtain rfl | rfl | rfl := hc
      · change 38 = _ at hnat
        omega
      · change 61 = _ at hnat
        omega
      · change 35 = _ at hnat
        omega
  · split at hb
    · obtain rfl := List.mem_singleton.mp hb
      exact absurd h (by decide)
    · obtain rfl | rfl | rfl := hc <;> exact not_mem_escapeByte (by decide) (by decide) b hb

theorem not_mem_formPair {c : Char} (h : isFormMark c = true) (hc : c ≠ '=')
    (pair : String × String) : c ∉ formPair pair := by
  rw [formPair, List.mem_append, List.mem_cons, not_or, not_or]
  exact ⟨not_mem_formEncode h _, hc, not_mem_formEncode h _⟩

theorem formPair_ne_nil (pair : String × String) : formPair pair ≠ [] :=
  List.append_ne_nil_of_right_ne_nil _ (List.cons_ne_nil _ _)

theorem read_formPair (pair : String × String) :
    (formDecode ((formPair pair).takeWhile (· ≠ '=')),
      formDecode (((formPair pair).dropWhile (· ≠ '=')).drop 1)) = pair := by
  have hname : ∀ c ∈ formEncode pair.1, decide (c ≠ '=') = true := by
    intro c hc
    refine decide_eq_true ?_
    rintro rfl
    exact not_mem_formEncode (by decide) _ hc
  rw [formPair, List.takeWhile_append_of_pos hname, List.dropWhile_append_of_pos hname,
    List.takeWhile_cons_of_neg (by simp), List.dropWhile_cons_of_neg (by simp), List.append_nil,
    List.drop_one, List.tail_cons, formDecode_formEncode, formDecode_formEncode]

theorem formPairs_formQuery (pairs : List (String × String)) :
    formPairs (formQuery pairs) = pairs := by
  cases pairs with
  | nil => rfl
  | cons pair pairs =>
      have hmark : ∀ piece ∈ (pair :: pairs).map formPair, '&' ∉ piece := by
        intro piece hpiece
        obtain ⟨p, -, rfl⟩ := List.mem_map.mp hpiece
        exact not_mem_formPair (by decide) (by decide) p
      have hfull : ∀ piece ∈ (pair :: pairs).map formPair, (!piece.isEmpty) = true := by
        intro piece hpiece
        obtain ⟨p, -, rfl⟩ := List.mem_map.mp hpiece
        simpa using formPair_ne_nil p
      rw [formPairs, formQuery, List.splitOn_intercalate _ hmark (by simp),
        List.filter_eq_self.mpr hfull, List.map_map]
      conv_rhs => rw [← List.map_id (pair :: pairs)]
      exact List.map_congr_left fun p _ => read_formPair p

theorem not_mem_formQuery (pairs : List (String × String)) : '#' ∉ formQuery pairs := by
  intro hmem
  obtain hsep | ⟨piece, hpiece, hin⟩ := mem_intercalate hmem
  · exact absurd hsep (by decide)
  · obtain ⟨pair, -, rfl⟩ := List.mem_map.mp hpiece
    exact not_mem_formPair (by decide) (by decide) pair hin

end FeedReader.Url
