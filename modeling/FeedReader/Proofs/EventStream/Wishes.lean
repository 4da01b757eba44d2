import FeedReader.Proofs.EventStream.Blocks

/-!
# Delays that a stream asks for

A line may ask for a delay before the next attempt, and it counts as soon as it is closed.  A
line that was dropped where it was cut does not count: what is left of it is not the line.
-/

namespace FeedReader

theorem Text.word?_lt {s : List Char} {n : Nat} (h : word? s = some n) : n < UInt64.size := by
  unfold word? at h
  split at h
  all_goals
    simp only [Option.bind_eq_bind, Option.bind_eq_some_iff, Option.ite_none_right_eq_some,
      Option.some.injEq] at h
    obtain ⟨m, -, hsize, rfl⟩ := h
    exact hsize

theorem Text.word?_zeros (n : Nat) : word? (List.replicate n '0' ++ ['5']) = some 5 := by
  have hzero : ∀ digits, digits ≠ [] → numeral? ('0' :: digits) = numeral? digits := by
    intro digits hdigits
    simp [numeral?, hdigits, digit?]
  have hnumeral : numeral? (List.replicate n '0' ++ ['5']) = some 5 := by
    induction n with
    | zero => rfl
    | succ n ih => rw [List.replicate_succ, List.cons_append, hzero _ (by simp), ih]
  unfold word?
  split
  · next digits hsign =>
      cases n with
      | zero => cases hsign
      | succ n => cases hsign
  · rw [hnumeral]
    rfl

namespace EventStream

def wish? (line : List Char) : Option Nat := (value? "retry" line).bind Text.word?

theorem retries_eq_filterMap (lines : List (List Char)) : retries lines = lines.filterMap wish? :=
  List.filterMap_filterMap

theorem retries_lt {lines : List (List Char)} {n : Nat} (h : n ∈ retries lines) :
    n < UInt64.size := by
  obtain ⟨value, -, hvalue⟩ := List.mem_filterMap.mp h
  exact Text.word?_lt hvalue

/-- The delays that a stream in pieces asks for, on lines that are kept. -/
def wishes (pieces : List (List UInt8)) : List Nat :=
  retries (((closedLines pieces).filter (IsKept ·)).map fun line => lineText line.reduceOption)

/-- What is left of other lines asks for no delay. -/
def LeavesNoWish (pieces : List (List UInt8)) : Prop :=
  ∀ line ∈ closedLines pieces, ¬IsKept line → wish? (lineText (leftover line)) = none

instance (pieces : List (List UInt8)) : Decidable (LeavesNoWish pieces) :=
  inferInstanceAs (Decidable (∀ line ∈ closedLines pieces, _ → _))

theorem LeavesNoWish.retries_leftTexts {pieces : List (List UInt8)} (h : LeavesNoWish pieces) :
    retries (leftTexts pieces) = wishes pieces := by
  rw [wishes, retries_eq_filterMap, retries_eq_filterMap, leftTexts, List.filterMap_map,
    List.filterMap_map, List.filterMap_filter]
  apply List.filterMap_congr
  intro line hline
  by_cases hkept : IsKept line
  · simp [hkept, hkept.leftover_eq]
  · simp [hkept, h line hline hkept]

theorem KeepsLines.wishes_eq {pieces : List (List UInt8)} (h : KeepsLines pieces) :
    LeavesNoWish pieces ∧ wishes pieces = retries (lineTexts pieces.flatten) := by
  have hleaves : LeavesNoWish pieces := fun line hline hlost => absurd (h line hline) hlost
  exact ⟨hleaves, by rw [← hleaves.retries_leftTexts, h.leftTexts_eq]⟩

/-! ## One line alone -/

theorem lineTexts_of_line {line : List UInt8} (h : 0x0a ∉ line) :
    lineTexts (line ++ [0x0d] ++ [0x0a]) = [Text.decodeLossy line] := by
  have hend : 0x0a ∉ line ++ [0x0d] := by simp [h]
  have hclosed : closedParts 0x0a (line ++ [0x0d] ++ [0x0a]) = [line ++ [0x0d]] := by
    rw [(parts_concat_sep _ _).1, (parts_of_not_mem hend).1, (parts_of_not_mem hend).2]
    rfl
  rw [lineTexts, hclosed, List.map_singleton, lineText, Decoder.withoutReturn,
    List.getLast?_concat, if_pos rfl, List.dropLast_concat]

theorem wish?_zeros (n : Nat) :
    wish? ("retry".toList ++ ':' :: ' ' :: (List.replicate n '0' ++ ['5'])) = some 5 := by
  have hspace : ∀ digits : List Char, (' ' :: digits).dropPrefix? [' '] = some digits := by
    intro digits
    simp [List.dropPrefix?]
  rw [wish?, value?_eq (by decide), Decoder.splitField_append (by decide), if_pos rfl, hspace,
    Option.bind_some]
  exact Text.word?_zeros n

namespace Decoder

/-! ## One piece more -/

theorem retry_processLine (d : Decoder) (line : List Char) :
    ∃ wish : Option Nat, (d.processLine line).2.retry = wish.or d.retry := by
  by_cases h : line = []
  · subst h
    exact ⟨none, rfl⟩
  · rw [processLine_of_ne_nil d h, field_eq]
    exact ⟨_, rfl⟩

theorem isSome_retry_feed {progress : List Event × Decoder} (h : progress.2.retry.isSome)
    (b : UInt8) : (feed progress b).2.retry.isSome := by
  obtain ⟨found, d⟩ := progress
  rw [feed]
  split
  · obtain ⟨wish, hwish⟩ := retry_processLine { d with buffer := [] } (bufferedLine d.buffer)
    have hsome : ({ d with buffer := [] }.processLine (bufferedLine d.buffer)).2.retry.isSome := by
      rw [hwish, Option.isSome_or]
      simp [h]
    split <;> simp_all
  · exact h

theorem isSome_retry_push {d : Decoder} (h : d.retry.isSome) (piece : List UInt8) :
    (d.push piece).2.retry.isSome := by
  have hfed : (piece.foldl feed ([], d)).2.retry.isSome :=
    List.foldlRecOn (motive := fun progress => progress.2.retry.isSome = true) piece feed h
      fun _ hfound b _ => isSome_retry_feed hfound b
  rw [push]
  dsimp only
  split
  · exact hfed
  · exact hfed

theorem retry_pushAll_reset (d : Decoder) (pieces : List (List UInt8)) :
    (d.reset.pushAll pieces).2.retry = (retries (leftTexts pieces)).getLast?.or d.retry := by
  rw [pushAll_reset]
  rfl

end Decoder

end EventStream

end FeedReader
