import FeedReader.Text.Utf8
import Mathlib.Tactic.IntervalCases

/-!
# Text as bytes and back

The bytes of a text are those of its characters in turn, and reading them gives the text
back, whether or not ill-formed bytes are allowed for.
-/

namespace FeedReader.Text

/-! ## Bytes of a text -/

theorem toList_loop (bytes : ByteArray) (i : Nat) (found : List UInt8) :
    ByteArray.toList.loop bytes i found = found.reverse ++ bytes.data.toList.drop i := by
  fun_induction ByteArray.toList.loop bytes i found with
  | case1 i found hlt ih =>
      have hlen : i < bytes.data.toList.length := by simpa using hlt
      have hget : bytes.get! i = bytes.data.toList[i] := by
        cases bytes with
        | mk data => exact getElem!_pos data i hlt
      rw [ih, List.drop_eq_getElem_cons hlen, hget, List.reverse_cons, List.append_assoc]
      rfl
  | case2 i found hge =>
      have hlen : bytes.data.toList.length ≤ i := by simpa using Nat.not_lt.mp hge
      rw [List.drop_eq_nil_of_le hlen, List.append_nil]

theorem toList_eq_data (bytes : ByteArray) : bytes.toList = bytes.data.toList := by
  rw [ByteArray.toList, toList_loop, List.reverse_nil, List.nil_append, List.drop_zero]

theorem toList_toUTF8 (s : String) : s.toUTF8.toList = s.toList.flatMap String.utf8EncodeChar := by
  rw [toList_eq_data, String.toUTF8, ← String.utf8Encode_toList, List.utf8Encode,
    List.toList_data_toByteArray]

theorem encode_eq_flatMap (s : String) : encode s = s.toList.flatMap encodeChar :=
  toList_toUTF8 s

theorem encodeChar_of_ascii {c : Char} (h : c.toNat < 0x80) :
    encodeChar c = [UInt8.ofNat c.toNat] := by
  have hval : c.val.toNat ≤ 127 := Nat.le_of_lt_succ h
  rw [encodeChar, String.utf8EncodeChar, if_pos hval]
  rfl

/-! ## Reading well-formed bytes -/

theorem toNat_ofNat {n : Nat} (h : n < 256) : (UInt8.ofNat n).toNat = n :=
  UInt8.toNat_ofNat_of_lt' h

namespace Utf8State

theorem feed_two {x : Nat} (hlow : 2 ≤ x) (hhigh : x < 32) (read : List Char) :
    feed { read } (UInt8.ofNat (x + 192)) = ⟨1, 0x80, 0xbf, x, read⟩ := by
  interval_cases x <;> rfl

theorem feed_three {x : Nat} (h : x < 16) (read : List Char) :
    feed { read } (UInt8.ofNat (x + 224)) =
      ⟨2, if x = 0 then 0xa0 else 0x80, if x = 13 then 0x9f else 0xbf, x, read⟩ := by
  interval_cases x <;> rfl

theorem feed_four {x : Nat} (h : x < 5) (read : List Char) :
    feed { read } (UInt8.ofNat (x + 240)) =
      ⟨3, if x = 0 then 0x90 else 0x80, if x = 4 then 0x8f else 0xbf, x, read⟩ := by
  interval_cases x <;> rfl

theorem feed_next {low high : UInt8} {x : Nat} (hx : x < 64) (hlow : low.toNat ≤ x + 128)
    (hhigh : x + 128 ≤ high.toNat) (need point : Nat) (read : List Char) :
    feed ⟨need + 1, low, high, point, read⟩ (UInt8.ofNat (x + 128)) =
      if need = 0 then { read := Char.ofNat (point * 64 + x) :: read }
      else ⟨need, 0x80, 0xbf, point * 64 + x, read⟩ := by
  have hbyte : (UInt8.ofNat (x + 128)).toNat = x + 128 := toNat_ofNat (by omega)
  have hfits : (low ≤ UInt8.ofNat (x + 128) && UInt8.ofNat (x + 128) ≤ high) = true := by
    simp only [Bool.and_eq_true, decide_eq_true_eq, UInt8.le_iff_toNat_le, hbyte]
    exact ⟨hlow, hhigh⟩
  simp only [feed, if_pos hfits, hbyte, Nat.add_sub_cancel, emit]

theorem feed_last {x : Nat} (hx : x < 64) (point : Nat) (read : List Char) :
    feed ⟨1, 0x80, 0xbf, point, read⟩ (UInt8.ofNat (x + 128)) =
      { read := Char.ofNat (point * 64 + x) :: read } := by
  have hlow : (0x80 : UInt8).toNat ≤ x + 128 := Nat.le_add_left 128 x
  have hhigh : x + 128 ≤ (0xbf : UInt8).toNat := by
    change _ ≤ 191
    omega
  rw [feed_next hx hlow hhigh, if_pos rfl]

theorem feed_middle {x : Nat} (hx : x < 64) (point : Nat) (read : List Char) :
    feed ⟨2, 0x80, 0xbf, point, read⟩ (UInt8.ofNat (x + 128)) =
      ⟨1, 0x80, 0xbf, point * 64 + x, read⟩ := by
  have hlow : (0x80 : UInt8).toNat ≤ x + 128 := Nat.le_add_left 128 x
  have hhigh : x + 128 ≤ (0xbf : UInt8).toNat := by
    change _ ≤ 191
    omega
  rw [feed_next hx hlow hhigh, if_neg Nat.one_ne_zero]

theorem foldl_feed_encodeChar (c : Char) (read : List Char) :
    (encodeChar c).foldl feed { read } = { read := c :: read } := by
  have hvalid : c.toNat < 0xd800 ∨ 0xdfff < c.toNat ∧ c.toNat < 0x110000 := c.valid
  have hval : c.val.toNat = c.toNat := rfl
  have hchar : ∀ n, n = c.toNat → Char.ofNat n = c := fun n h => h ▸ Char.ofNat_toNat c
  rw [encodeChar, String.utf8EncodeChar, hval]
  split
  · next hascii =>
      have hback : (UInt8.ofNat c.toNat).toNat = c.toNat := toNat_ofNat (by omega)
      have hlt : UInt8.ofNat c.toNat < 0x80 := by
        rw [UInt8.lt_iff_toNat_lt, hback]
        exact Nat.lt_succ_of_le hascii
      simp only [List.foldl_cons, List.foldl_nil, feed, lead, if_pos hlt, emit, hback,
        Char.ofNat_toNat]
  · split
    · rw [List.foldl_cons, feed_two (by omega) (by omega), List.foldl_cons, feed_last (by omega),
        hchar _ (by omega), List.foldl_nil]
    · split
      · have hlow : (if c.toNat / 4096 % 16 = 0 then 0xa0 else 0x80 : UInt8).toNat ≤
            c.toNat / 64 % 64 + 128 := by
          split
          · change 160 ≤ _
            omega
          · change 128 ≤ _
            omega
        have hhigh : c.toNat / 64 % 64 + 128 ≤
            (if c.toNat / 4096 % 16 = 13 then 0x9f else 0xbf : UInt8).toNat := by
          split
          · change _ ≤ 159
            omega
          · change _ ≤ 191
            omega
        rw [List.foldl_cons, feed_three (by omega), List.foldl_cons,
          feed_next (by omega) hlow hhigh, if_neg Nat.one_ne_zero, List.foldl_cons,
          feed_last (by omega), hchar _ (by omega), List.foldl_nil]
      · have hlow : (if c.toNat / 262144 % 8 = 0 then 0x90 else 0x80 : UInt8).toNat ≤
            c.toNat / 4096 % 64 + 128 := by
          split
          · change 144 ≤ _
            omega
          · change 128 ≤ _
            omega
        have hhigh : c.toNat / 4096 % 64 + 128 ≤
            (if c.toNat / 262144 % 8 = 4 then 0x8f else 0xbf : UInt8).toNat := by
          split
          · change _ ≤ 143
            omega
          · change _ ≤ 191
            omega
        rw [List.foldl_cons, feed_four (by omega), List.foldl_cons,
          feed_next (by omega) hlow hhigh, if_neg (by omega), List.foldl_cons,
          feed_middle (by omega), List.foldl_cons, feed_last (by omega), hchar _ (by omega),
          List.foldl_nil]

theorem foldl_feed_encodeChars (s read : List Char) :
    (s.flatMap encodeChar).foldl feed { read } = { read := s.reverse ++ read } := by
  induction s generalizing read with
  | nil => rfl
  | cons c s ih =>
      rw [List.flatMap_cons, List.foldl_append, foldl_feed_encodeChar, ih, List.reverse_cons,
        List.append_assoc, List.singleton_append]

end Utf8State

theorem decodeLossy_flatMap_encodeChar (s : List Char) :
    decodeLossy (s.flatMap encodeChar) = s := by
  rw [decodeLossy, Utf8State.foldl_feed_encodeChars, List.append_nil]
  exact List.reverse_reverse s

theorem flatMap_encodeChar_inj {s t : List Char}
    (h : s.flatMap encodeChar = t.flatMap encodeChar) : s = t := by
  rw [← decodeLossy_flatMap_encodeChar s, h, decodeLossy_flatMap_encodeChar]

theorem encode_inj {s t : String} (h : encode s = encode t) : s = t := by
  rw [encode_eq_flatMap, encode_eq_flatMap] at h
  exact String.toList_inj.mp (flatMap_encodeChar_inj h)

end FeedReader.Text
