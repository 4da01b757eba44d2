import FeedReader.Web.Fetch

/-!
# Reading a body within a limit

A body comes in pieces, after which it ends or breaks off.  What is read depends on the bytes
that came and not on where they were cut, and never more of them is kept than the limit.
-/

namespace FeedReader.Web

variable {limit : Nat} {broken : Bool} {kept bytes : List UInt8} {pieces : List (List UInt8)}

/-! ## Collecting -/

theorem collect_append (limit : Nat) (broken : Bool) (kept : List UInt8)
    (front rest : List (List UInt8)) :
    collect limit broken kept (front ++ rest) =
      (collect limit false kept front).bind fun kept => collect limit broken kept rest := by
  induction front generalizing kept with
  | nil => rfl
  | cons piece front ih =>
      rw [List.cons_append, collect, collect]
      split
      · rfl
      · exact ih (kept ++ piece)

theorem collect_eq (limit : Nat) (broken : Bool) (kept : List UInt8)
    (pieces : List (List UInt8)) (h : kept.length ≤ limit) :
    collect limit broken kept pieces =
      if limit < kept.length + pieces.flatten.length then .error .tooLarge
      else if broken then .error .network
      else .ok (kept ++ pieces.flatten) := by
  induction pieces generalizing kept with
  | nil =>
      rw [List.flatten_nil, List.length_nil, Nat.add_zero, if_neg (Nat.not_lt.mpr h),
        List.append_nil]
      rfl
  | cons piece pieces ih =>
      rw [collect, List.flatten_cons, List.length_append]
      split
      · next hlarge => rw [if_pos (by omega)]
      · next hfits =>
          have hkept : (kept ++ piece).length ≤ limit := by
            rw [List.length_append]
            omega
          rw [ih (kept ++ piece) hkept, List.length_append, Nat.add_assoc, List.append_assoc]

theorem length_le_of_collect (h : kept.length ≤ limit)
    (hcollect : collect limit broken kept pieces = .ok bytes) : bytes.length ≤ limit := by
  rw [collect_eq limit broken kept pieces h] at hcollect
  split at hcollect
  · cases hcollect
  · split at hcollect
    · cases hcollect
    · cases hcollect
      rw [List.length_append]
      omega

/-! ## Bodies -/

namespace Body

theorem read_eq (body : Body) (limit : Nat) :
    body.read limit =
      if body.declared.any (limit < ·) ∨ limit < body.pieces.flatten.length then
        .error .tooLarge
      else if body.broken then .error .network
      else .ok body.pieces.flatten := by
  rw [read, collect_eq limit body.broken [] body.pieces (Nat.zero_le limit), List.length_nil,
    Nat.zero_add, List.nil_append]
  by_cases hdeclared : body.declared.any (limit < ·)
  · rw [if_pos hdeclared, if_pos (.inl hdeclared)]
  · simp only [hdeclared, false_or, Bool.false_eq_true, if_false]

/--
The length that was announced and the bytes that came decide, together with how the body ends.
Cut otherwise, the same bytes read the same.  While pieces are collected, what was kept so far
is within the limit, and the rest is collected from there.
-/
theorem read_within_limit (body : Body) (limit : Nat) :
    (body.read limit =
      if body.declared.any (limit < ·) ∨ limit < body.pieces.flatten.length then
        .error .tooLarge
      else if body.broken then .error .network
      else .ok body.pieces.flatten) ∧
    (∀ pieces, pieces.flatten = body.pieces.flatten →
      { body with pieces }.read limit = body.read limit) ∧
    ∀ front rest, body.pieces = front ++ rest →
      ∀ kept, collect limit false [] front = .ok kept →
        kept.length ≤ limit ∧
          collect limit body.broken [] body.pieces = collect limit body.broken kept rest := by
  refine ⟨read_eq body limit, ?_, ?_⟩
  · intro pieces hbytes
    rw [read_eq, read_eq, hbytes]
  · intro front rest hpieces kept hkept
    have hstart : ([] : List UInt8).length ≤ limit := Nat.zero_le limit
    refine ⟨length_le_of_collect hstart hkept, ?_⟩
    rw [hpieces, collect_append, hkept]
    rfl

def snug : Body where
  declared := some 3
  pieces := [[1, 2], [], [3, 4, 5]]

theorem read_of_snug :
    snug.read 5 = .ok [1, 2, 3, 4, 5] ∧
      { snug with pieces := [[1], [2, 3, 4, 5]] }.read 5 = snug.read 5 ∧
      [(1 : UInt8), 2].length ≤ 5 ∧
      collect 5 false [] snug.pieces = collect 5 false [1, 2] [[], [3, 4, 5]] := by
  obtain ⟨hread, hcuts, hkept⟩ := read_within_limit snug 5
  exact ⟨hread, hcuts [[1], [2, 3, 4, 5]] rfl,
    hkept [[1, 2]] [[], [3, 4, 5]] rfl [1, 2] rfl⟩

end Body

end FeedReader.Web
