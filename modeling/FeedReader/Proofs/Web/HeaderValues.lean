import FeedReader.Proofs.Text.Utf8
import FeedReader.Web.Exchange

/-!
# Which texts are header values

What a header may hold is said of bytes.  A character that takes more than one byte has
no byte below 0x80, so of a text it is enough to look at its characters.
-/

namespace FeedReader.Web

def isHeaderChar (c : Char) : Bool := c = '\t' || (' ' ≤ c && c ≠ '\x7f')

theorem isHeaderByte_iff (b : UInt8) :
    isHeaderByte b = true ↔ b.toNat = 9 ∨ 32 ≤ b.toNat ∧ b.toNat ≠ 127 := by
  simp [isHeaderByte, UInt8.le_iff_toNat_le, ← UInt8.toNat_inj]

theorem isHeaderChar_iff (c : Char) :
    isHeaderChar c = true ↔ c.toNat = 9 ∨ 32 ≤ c.toNat ∧ c.toNat ≠ 127 := by
  simp [isHeaderChar, Char.ext_iff, Char.le_def, UInt32.le_iff_toNat_le, ← UInt32.toNat_inj]

/-! ## Bytes of a text -/

theorem isHeaderByte_ofNat {n : Nat} (h : n < 256) :
    isHeaderByte (UInt8.ofNat n) = true ↔ n = 9 ∨ 32 ≤ n ∧ n ≠ 127 := by
  rw [isHeaderByte_iff, UInt8.toNat_ofNat_of_lt' h]

theorem all_isHeaderByte_utf8EncodeChar (c : Char) :
    (String.utf8EncodeChar c).all isHeaderByte = isHeaderChar c := by
  rw [Bool.eq_iff_iff, isHeaderChar_iff, List.all_eq_true, String.utf8EncodeChar]
  have hlong : ∀ n, 128 ≤ n → n < 256 → isHeaderByte (UInt8.ofNat n) = true := by
    intro n hlow hhigh
    rw [isHeaderByte_ofNat hhigh]
    omega
  split
  · next hascii =>
      rw [List.forall_mem_singleton, isHeaderByte_ofNat (by omega)]
      rfl
  · next hlarge =>
      have hchar : c.toNat = 9 ∨ 32 ≤ c.toNat ∧ c.toNat ≠ 127 := by
        have hval : c.toNat = c.val.toNat := rfl
        omega
      refine iff_of_true ?_ hchar
      split
      · simp only [List.forall_mem_cons]
        exact ⟨hlong _ (by omega) (by omega), hlong _ (by omega) (by omega), by simp⟩
      · split
        · simp only [List.forall_mem_cons]
          exact ⟨hlong _ (by omega) (by omega), hlong _ (by omega) (by omega),
            hlong _ (by omega) (by omega), by simp⟩
        · simp only [List.forall_mem_cons]
          exact ⟨hlong _ (by omega) (by omega), hlong _ (by omega) (by omega),
            hlong _ (by omega) (by omega), hlong _ (by omega) (by omega), by simp⟩

theorem isHeaderValue_iff (s : String) :
    isHeaderValue s = true ↔ ∀ c ∈ s.toList, isHeaderChar c = true := by
  rw [isHeaderValue, Text.toList_toUTF8, List.all_flatMap, List.all_eq_true]
  simp only [all_isHeaderByte_utf8EncodeChar]

end FeedReader.Web
