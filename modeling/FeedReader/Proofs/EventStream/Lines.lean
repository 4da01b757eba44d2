import FeedReader.Proofs.EventStream.Pieces
import Mathlib.Data.List.Induction
import Mathlib.Data.List.ReduceOption

/-!
# A stream line by line

A stream in pieces is a list of bytes with a mark where a piece ends.  What the
decoder has read is computed from the lines that line feeds have closed, and what it
keeps from the line that is still open.  Of a line that grows too long within its
pieces only what comes after the last mark is left.
-/

namespace FeedReader.EventStream

/-! ## Closed and open parts -/

section Parts

variable {α : Type} [DecidableEq α]

def closedParts (sep : α) (xs : List α) : List (List α) := (xs.splitOn sep).dropLast

def openPart (sep : α) (xs : List α) : List α :=
  (xs.splitOn sep).getLast (List.splitOn_ne_nil sep xs)

theorem splitOn_eq (sep : α) (xs : List α) :
    xs.splitOn sep = closedParts sep xs ++ [openPart sep xs] :=
  (List.dropLast_concat_getLast _).symm

theorem parts_of_splitOn_eq {sep : α} {xs : List α} {closed : List (List α)} {rest : List α}
    (h : xs.splitOn sep = closed ++ [rest]) :
    closedParts sep xs = closed ∧ openPart sep xs = rest := by
  rw [splitOn_eq] at h
  exact List.append_singleton_inj.mp h

theorem parts_append_sep (sep : α) (xs ys : List α) :
    closedParts sep (xs ++ sep :: ys) =
        closedParts sep xs ++ openPart sep xs :: closedParts sep ys ∧
      openPart sep (xs ++ sep :: ys) = openPart sep ys := by
  apply parts_of_splitOn_eq
  rw [List.splitOn_append_cons_self, splitOn_eq sep xs, splitOn_eq sep ys, List.append_assoc,
    List.append_assoc]
  rfl

theorem splitOn_append_of_not_mem {sep : α} {xs ys : List α} (h : sep ∉ ys)
    {closed : List (List α)} {rest : List α} (hxs : xs.splitOn sep = closed ++ [rest]) :
    (xs ++ ys).splitOn sep = closed ++ [rest ++ ys] := by
  induction xs generalizing closed rest with
  | nil =>
      obtain ⟨rfl, rfl⟩ := parts_of_splitOn_eq hxs
      exact List.splitOn_eq_singleton h
  | cons x xs ih =>
      have htail := ih (splitOn_eq sep xs)
      rw [List.splitOn_cons_eq_if_modifyHead, splitOn_eq] at hxs
      rw [List.cons_append, List.splitOn_cons_eq_if_modifyHead, htail]
      split at hxs
      · next hsep =>
          have hparts : ([] :: closedParts sep xs) ++ [openPart sep xs] = closed ++ [rest] := hxs
          obtain ⟨rfl, rfl⟩ := List.append_singleton_inj.mp hparts
          rw [if_pos hsep]
          rfl
      · next hsep =>
          rw [if_neg hsep]
          cases hclosed : closedParts sep xs with
          | nil =>
              have hparts : [] ++ [x :: openPart sep xs] = closed ++ [rest] := by
                rwa [hclosed] at hxs
              obtain ⟨rfl, rfl⟩ := List.append_singleton_inj.mp hparts
              rfl
          | cons first more =>
              have hparts : ((x :: first) :: more) ++ [openPart sep xs] = closed ++ [rest] := by
                rwa [hclosed] at hxs
              obtain ⟨rfl, rfl⟩ := List.append_singleton_inj.mp hparts
              rfl

theorem parts_append_of_not_mem {sep : α} (xs : List α) {ys : List α} (h : sep ∉ ys) :
    closedParts sep (xs ++ ys) = closedParts sep xs ∧
      openPart sep (xs ++ ys) = openPart sep xs ++ ys :=
  parts_of_splitOn_eq (splitOn_append_of_not_mem h (splitOn_eq sep xs))

theorem parts_of_not_mem {sep : α} {xs : List α} (h : sep ∉ xs) :
    closedParts sep xs = [] ∧ openPart sep xs = xs :=
  parts_append_of_not_mem [] h

theorem parts_concat_sep (sep : α) (xs : List α) :
    closedParts sep (xs ++ [sep]) = closedParts sep xs ++ [openPart sep xs] ∧
      openPart sep (xs ++ [sep]) = [] :=
  parts_append_sep sep xs []

theorem closedParts_append {sep : α} {xs : List α} (h : openPart sep xs = []) (ys : List α) :
    closedParts sep (xs ++ ys) = closedParts sep xs ++ closedParts sep ys := by
  cases xs using List.reverseRecOn with
  | nil => rfl
  | append_singleton xs x =>
      by_cases hx : x = sep
      · subst hx
        rw [List.append_assoc, List.singleton_append, (parts_append_sep _ xs ys).1,
          (parts_concat_sep _ xs).1, List.append_assoc, List.singleton_append]
      · have hsep : sep ∉ [x] := by simp [Ne.symm hx]
        rw [(parts_append_of_not_mem xs hsep).2] at h
        exact absurd h (List.append_ne_nil_of_right_ne_nil _ (List.cons_ne_nil _ _))

theorem parts_filterMap {β : Type} [DecidableEq β] {sep : α} {sep' : β} {f : α → Option β}
    (hf : ∀ x, f x = some sep' ↔ x = sep) (xs : List α) :
    closedParts sep' (xs.filterMap f) = (closedParts sep xs).map (List.filterMap f) ∧
      openPart sep' (xs.filterMap f) = (openPart sep xs).filterMap f := by
  induction xs using List.reverseRecOn with
  | nil => exact ⟨rfl, rfl⟩
  | append_singleton xs x ih =>
      obtain ⟨hclosed, hopen⟩ := ih
      rw [List.filterMap_append]
      by_cases hx : x = sep
      · subst hx
        have hsep : [x].filterMap f = [sep'] := List.filterMap_cons_some ((hf x).mpr rfl)
        rw [hsep, (parts_concat_sep _ _).1, (parts_concat_sep _ _).2, (parts_concat_sep _ xs).1,
          (parts_concat_sep _ xs).2, hclosed, hopen, List.map_append]
        exact ⟨rfl, rfl⟩
      · have hsep : sep ∉ [x] := by simp [Ne.symm hx]
        have hsep' : sep' ∉ [x].filterMap f := by
          rw [List.mem_filterMap]
          rintro ⟨y, hy, hsome⟩
          rw [List.mem_singleton.mp hy] at hsome
          exact hx ((hf x).mp hsome)
        rw [(parts_append_of_not_mem _ hsep').1, (parts_append_of_not_mem _ hsep').2,
          (parts_append_of_not_mem xs hsep).1, (parts_append_of_not_mem xs hsep).2, hclosed, hopen,
          List.filterMap_append]
        exact ⟨rfl, rfl⟩

theorem parts_map_some (sep : α) (xs : List α) :
    closedParts (some sep) (xs.map some) = (closedParts sep xs).map (List.map some) ∧
      openPart (some sep) (xs.map some) = (openPart sep xs).map some := by
  have hsome : ∀ x, (some ∘ some) x = some (some sep) ↔ x = sep := by simp
  have hparts := parts_filterMap hsome xs
  rwa [List.filterMap_eq_map] at hparts

end Parts

/-! ## Lines in pieces -/

/-- The bytes of a stream in pieces, with `none` where a piece ends. -/
def marked (pieces : List (List UInt8)) : List (Option UInt8) :=
  pieces.flatMap fun piece => piece.map some ++ [none]

def closedLines (pieces : List (List UInt8)) : List (List (Option UInt8)) :=
  closedParts (some 0x0a) (marked pieces)

def keep (kept : List UInt8) : Option UInt8 → List UInt8
  | some b => kept ++ [b]
  | none => if maxLine < kept.length then [] else kept

/-- What is left of a line in pieces: it is dropped where it is too long at the end of a piece. -/
def leftover (line : List (Option UInt8)) : List UInt8 := line.foldl keep []

theorem leftover_concat (line : List (Option UInt8)) (x : Option UInt8) :
    leftover (line ++ [x]) = keep (leftover line) x :=
  List.foldl_concat ..

theorem leftover_map_some (line : List UInt8) : leftover (line.map some) = line := by
  induction line using List.reverseRecOn with
  | nil => rfl
  | append_singleton line b ih =>
      rw [List.map_append, List.map_singleton, leftover_concat, ih, keep]

def IsKept (bytes : List (Option UInt8)) : Prop :=
  ∀ i < bytes.length, bytes[i]? = some none → (bytes.take i).reduceOption.length ≤ maxLine

instance (bytes : List (Option UInt8)) : Decidable (IsKept bytes) :=
  inferInstanceAs (Decidable (∀ i < bytes.length, _ → _))

theorem isKept_concat {bytes : List (Option UInt8)} {x : Option UInt8}
    (h : IsKept (bytes ++ [x])) :
    IsKept bytes ∧ (x = none → bytes.reduceOption.length ≤ maxLine) := by
  have hlength : (bytes ++ [x]).length = bytes.length + 1 := List.length_append
  constructor
  · intro i hi hcut
    have hearlier := h i (by omega) (by rwa [List.getElem?_append_left hi])
    rwa [List.take_append_of_le_length (Nat.le_of_lt hi)] at hearlier
  · rintro rfl
    have hlast := h bytes.length (by omega) List.getElem?_concat_length
    rwa [List.take_left] at hlast

theorem IsKept.leftover_eq {bytes : List (Option UInt8)} (h : IsKept bytes) :
    leftover bytes = bytes.reduceOption := by
  induction bytes using List.reverseRecOn with
  | nil => rfl
  | append_singleton bytes x ih =>
      obtain ⟨hbytes, hcut⟩ := isKept_concat h
      rw [leftover_concat, ih hbytes, List.reduceOption_append, List.reduceOption_singleton]
      cases x with
      | none => rw [keep, if_neg (Nat.not_lt.mpr (hcut rfl)), Option.toList_none, List.append_nil]
      | some b => rfl

theorem isKept_of_length_le {bytes : List (Option UInt8)}
    (h : bytes.reduceOption.length ≤ maxLine) : IsKept bytes := by
  intro i _ _
  rw [← List.take_append_drop i bytes, List.reduceOption_append, List.length_append] at h
  omega

theorem leftover_of_length_le {line : List (Option UInt8)}
    (h : line.reduceOption.length ≤ maxLine) : leftover line = line.reduceOption :=
  (isKept_of_length_le h).leftover_eq

theorem reduceOption_map_some (line : List UInt8) : (line.map some).reduceOption = line := by
  simp [List.reduceOption]

theorem reduceOption_marked (pieces : List (List UInt8)) :
    (marked pieces).reduceOption = pieces.flatten := by
  induction pieces with
  | nil => rfl
  | cons piece pieces ih =>
      rw [marked, List.flatMap_cons, List.reduceOption_append, List.reduceOption_append,
        List.reduceOption_singleton, ← marked, ih, reduceOption_map_some, Option.toList_none,
        List.append_nil, List.flatten_cons]

theorem map_reduceOption_closedLines (pieces : List (List UInt8)) :
    (closedLines pieces).map List.reduceOption = closedParts 0x0a pieces.flatten := by
  have hmarks : ∀ x : Option UInt8, id x = some 0x0a ↔ x = some 0x0a := fun _ => Iff.rfl
  rw [← reduceOption_marked]
  exact (parts_filterMap hmarks _).1.symm

/-! ## The text of lines -/

/-- A carriage return at the end of a line is no part of its text. -/
def lineText (line : List UInt8) : List Char := Text.decodeLossy (Decoder.withoutReturn line)

def lineTexts (stream : List UInt8) : List (List Char) :=
  (closedParts 0x0a stream).map lineText

/-- The lines that a stream in pieces closes, as far as they are left. -/
def leftTexts (pieces : List (List UInt8)) : List (List Char) :=
  (closedLines pieces).map fun line => lineText (leftover line)

theorem lineTexts_of_whole (stream : List UInt8) :
    ((closedParts 0x0a stream).map (List.map some)).map (fun line => lineText (leftover line)) =
      lineTexts stream := by
  rw [List.map_map, lineTexts]
  exact List.map_congr_left fun line _ => by rw [Function.comp_apply, leftover_map_some]

theorem leftTexts_singleton (stream : List UInt8) : leftTexts [stream] = lineTexts stream := by
  have hend : some (0x0a : UInt8) ∉ [none] := by simp
  have hmarked : marked [stream] = stream.map some ++ [none] := List.append_nil _
  rw [leftTexts, closedLines, hmarked, (parts_append_of_not_mem _ hend).1,
    (parts_map_some _ stream).1, lineTexts_of_whole]

/-- No line that a stream closes is too long, with its carriage return if it has one. -/
def HasShortLines (stream : List UInt8) : Prop :=
  ∀ line ∈ closedParts 0x0a stream, line.length ≤ maxLine

instance (stream : List UInt8) : Decidable (HasShortLines stream) :=
  inferInstanceAs (Decidable (∀ line ∈ closedParts 0x0a stream, line.length ≤ maxLine))

def KeepsLines (pieces : List (List UInt8)) : Prop := ∀ line ∈ closedLines pieces, IsKept line

instance (pieces : List (List UInt8)) : Decidable (KeepsLines pieces) :=
  inferInstanceAs (Decidable (∀ line ∈ closedLines pieces, IsKept line))

theorem HasShortLines.keepsLines {pieces : List (List UInt8)} (h : HasShortLines pieces.flatten) :
    KeepsLines pieces := by
  rw [HasShortLines, ← map_reduceOption_closedLines] at h
  intro line hline
  exact isKept_of_length_le (h _ (List.mem_map_of_mem hline))

theorem KeepsLines.leftTexts_eq {pieces : List (List UInt8)} (h : KeepsLines pieces) :
    leftTexts pieces = lineTexts pieces.flatten := by
  rw [lineTexts, ← map_reduceOption_closedLines, leftTexts, List.map_map]
  apply List.map_congr_left
  intro line hline
  rw [Function.comp_apply, (h line hline).leftover_eq]

theorem HasShortLines.leftTexts_eq {pieces : List (List UInt8)} (h : HasShortLines pieces.flatten) :
    leftTexts pieces = lineTexts pieces.flatten :=
  h.keepsLines.leftTexts_eq

namespace Decoder

theorem bufferedLine_eq (buffer : List UInt8) : bufferedLine buffer = lineText buffer.reverse := by
  rw [bufferedLine.eq_def, lineText, withoutReturn]
  cases buffer with
  | nil => rfl
  | cons b buffer =>
      rw [List.reverse_cons, List.getLast?_concat, List.dropLast_concat]
      by_cases hb : b = 0x0d
      · subst hb
        rw [if_pos rfl]
        rfl
      · rw [if_neg (mt Option.some.inj hb)]
        split
        · next hreturn => exact absurd (List.cons_eq_cons.mp hreturn).1 hb
        · rw [List.reverse_cons]

/-! ## What lines do to a decoder -/

def readLine (progress : List Event × Decoder) (line : List Char) : List Event × Decoder :=
  let (event, d) := progress.2.processLine line
  (progress.1 ++ event.toList, d)

def readLines (d : Decoder) (lines : List (List Char)) : List Event × Decoder :=
  lines.foldl readLine ([], d)

theorem readLines_concat (d : Decoder) (lines : List (List Char)) (line : List Char) :
    d.readLines (lines ++ [line]) =
      ((d.readLines lines).1 ++ ((d.readLines lines).2.processLine line).1.toList,
        ((d.readLines lines).2.processLine line).2) :=
  List.foldl_concat ..

theorem field_setBuffer (d : Decoder) (buffer : List UInt8) (line : List Char) :
    { d with buffer }.field line = { d.field line with buffer } := by
  simp only [field]
  split_ifs <;> rfl

theorem processLine_setBuffer (d : Decoder) (buffer : List UInt8) (line : List Char) :
    { d with buffer }.processLine line =
      ((d.processLine line).1, { (d.processLine line).2 with buffer }) := by
  rw [processLine.eq_def, processLine.eq_def]
  split
  · rfl
  · rfl
  · rw [field_setBuffer]

theorem feed_lineFeed (found : List Event) (d : Decoder) (line : List UInt8) :
    feed (found, { d with buffer := line.reverse }) 0x0a =
      ((d.processLine (lineText line)).1.toList ++ found,
        { (d.processLine (lineText line)).2 with buffer := [] }) := by
  rw [feed, if_pos rfl]
  dsimp only
  rw [bufferedLine_eq, List.reverse_reverse, processLine_setBuffer]
  cases (d.processLine (lineText line)).1 with
  | none => rfl
  | some event => rfl

/-! ## From bytes to lines -/

def advance (progress : List Event × Decoder) : Option UInt8 → List Event × Decoder
  | some b => feed progress b
  | none =>
      let (found, d) := progress
      (found, if maxLine < d.buffer.length then { d with buffer := [] } else d)

theorem foldl_advance_marked (pieces : List (List UInt8)) (found : List Event) (d : Decoder) :
    (marked pieces).foldl advance (found, d) =
      ((d.pushAll pieces).1.reverse ++ found, (d.pushAll pieces).2) := by
  induction pieces generalizing found d with
  | nil => rfl
  | cons piece pieces ih =>
      rw [marked, List.flatMap_cons, List.foldl_append, List.foldl_concat, List.foldl_map,
        ← marked]
      change (marked pieces).foldl advance (advance (piece.foldl feed (found, d)) none) = _
      rw [foldl_feed_found, advance, ih, pushAll, push]
      dsimp only
      rw [List.reverse_append, List.reverse_reverse, List.append_assoc]

theorem foldl_advance (d : Decoder) (xs : List (Option UInt8)) (hd : d.buffer = []) :
    xs.foldl advance ([], d) =
      let lines := (closedParts (some 0x0a) xs).map fun line => lineText (leftover line)
      let read := d.readLines lines
      (read.1.reverse, { read.2 with buffer := (leftover (openPart (some 0x0a) xs)).reverse }) := by
  -- From the end: what is last drops the open line, closes it or makes it longer.
  induction xs using List.reverseRecOn with
  | nil =>
      cases d
      cases hd
      rfl
  | append_singleton xs x ih =>
      rw [List.foldl_concat, ih]
      cases x with
      | none =>
          have hx : some (0x0a : UInt8) ∉ [none] := by simp
          rw [(parts_append_of_not_mem xs hx).1, (parts_append_of_not_mem xs hx).2,
            leftover_concat, keep, advance]
          dsimp only
          rw [List.length_reverse]
          split
          · rfl
          · rfl
      | some b =>
          by_cases hb : b = 0x0a
          · subst hb
            rw [(parts_concat_sep _ xs).1, (parts_concat_sep _ xs).2, List.map_append,
              List.map_singleton]
            dsimp only
            rw [readLines_concat, advance, feed_lineFeed]
            dsimp only
            rw [List.reverse_append]
            cases ((d.readLines _).2.processLine _).1 with
            | none => rfl
            | some event => rfl
          · have hx : some (0x0a : UInt8) ∉ [some b] := by simp [Ne.symm hb]
            rw [(parts_append_of_not_mem xs hx).1, (parts_append_of_not_mem xs hx).2,
              leftover_concat, keep, advance, feed, if_neg hb, List.reverse_concat]

theorem pushAll_eq_readLines {d : Decoder} (hd : d.buffer = []) (pieces : List (List UInt8)) :
    d.pushAll pieces =
      let read := d.readLines (leftTexts pieces)
      (read.1, { read.2 with
        buffer := (leftover (openPart (some 0x0a) (marked pieces))).reverse }) := by
  have hfold := foldl_advance_marked pieces [] d
  rw [foldl_advance d _ hd, List.append_nil] at hfold
  obtain ⟨hfound, hlast⟩ := Prod.mk.inj hfold
  exact Prod.ext (List.reverse_injective hfound.symm) hlast.symm

theorem push_eq_pushAll (d : Decoder) (stream : List UInt8) :
    d.push stream = d.pushAll [stream] := by
  rw [pushAll]
  dsimp only
  rw [pushAll, List.append_nil]

theorem pushAll_concat (d : Decoder) (pieces : List (List UInt8)) (piece : List UInt8) :
    d.pushAll (pieces ++ [piece]) =
      ((d.pushAll pieces).1 ++ ((d.pushAll pieces).2.push piece).1,
        ((d.pushAll pieces).2.push piece).2) := by
  induction pieces generalizing d with
  | nil => exact (push_eq_pushAll d piece).symm
  | cons first pieces ih =>
      rw [List.cons_append, pushAll, pushAll]
      dsimp only
      rw [ih, List.append_assoc]

end Decoder

end FeedReader.EventStream
