import FeedReader.Proofs.EventStream.Blocks

/-!
# Lines that are too long

An unfinished line that has grown too long is dropped at the end of a piece, but
nothing says that the line is not over: what comes after is read as a line of its own,
and a line that ends within the same piece is read whole.  So a long line goes unseen
just where what is left of it has no effect.
-/

namespace FeedReader.EventStream

open Decoder (shown shown_push shown_pushAll)

/-! ## Parts and separators -/

section Parts

variable {α : Type} [DecidableEq α] {sep : α}

theorem sep_not_mem_parts (sep : α) (xs : List α) :
    (∀ part ∈ closedParts sep xs, sep ∉ part) ∧ sep ∉ openPart sep xs := by
  induction xs using List.reverseRecOn with
  | nil => exact ⟨nofun, nofun⟩
  | append_singleton xs x ih =>
      obtain ⟨hclosed, hopen⟩ := ih
      by_cases hx : x = sep
      · subst hx
        rw [(parts_concat_sep _ xs).1, (parts_concat_sep _ xs).2]
        refine ⟨?_, nofun⟩
        intro part hpart
        rcases List.mem_append.mp hpart with hearlier | hlast
        · exact hclosed part hearlier
        · rwa [List.mem_singleton.mp hlast]
      · have hsep : sep ∉ [x] := by simp [Ne.symm hx]
        rw [(parts_append_of_not_mem xs hsep).1, (parts_append_of_not_mem xs hsep).2]
        exact ⟨hclosed, fun hmem => (List.mem_append.mp hmem).elim hopen hsep⟩

theorem closedParts_flatMap {parts : List (List α)} (h : ∀ part ∈ parts, sep ∉ part)
    (xs : List α) :
    closedParts sep (parts.flatMap (· ++ [sep]) ++ xs) = parts ++ closedParts sep xs := by
  induction parts with
  | nil => rfl
  | cons part parts ih =>
      obtain ⟨hpart, hparts⟩ := List.forall_mem_cons.mp h
      rw [List.flatMap_cons, List.append_assoc, List.append_assoc, List.singleton_append,
        (parts_append_sep sep part _).1, ih hparts]
      rw [(parts_of_not_mem hpart).1, (parts_of_not_mem hpart).2]
      rfl

end Parts

/-! ## Without long lines -/

def withoutLongLines (stream : List UInt8) : List UInt8 :=
  ((closedParts 0x0a stream).filter (·.length ≤ maxLine)).flatMap (· ++ [0x0a]) ++
    if (openPart 0x0a stream).length ≤ maxLine then openPart 0x0a stream else []

theorem closedParts_withoutLongLines (stream : List UInt8) :
    closedParts 0x0a (withoutLongLines stream) =
      (closedParts 0x0a stream).filter (·.length ≤ maxLine) := by
  obtain ⟨hclosed, hopen⟩ := sep_not_mem_parts 0x0a stream
  have hlast : 0x0a ∉
      if (openPart 0x0a stream).length ≤ maxLine then openPart 0x0a stream else [] := by
    split
    · exact hopen
    · exact List.not_mem_nil
  rw [withoutLongLines,
    closedParts_flatMap fun line hline => hclosed line (List.mem_of_mem_filter hline),
    (parts_of_not_mem hlast).1, List.append_nil]

/-- In these pieces, a line that is too long has no effect. -/
def DropsLongLines (pieces : List (List UInt8)) : Prop :=
  shown (({} : Decoder).pushAll pieces) =
    shown (({} : Decoder).push (withoutLongLines pieces.flatten))

/-- What is left of each line that is too long is allowed. -/
def LeavesOnly (Allowed : List UInt8 → Prop) (pieces : List (List UInt8)) : Prop :=
  ∀ line ∈ closedLines pieces, maxLine < line.reduceOption.length → Allowed (leftover line)

theorem dropsLongLines_iff (pieces : List (List UInt8)) :
    DropsLongLines pieces ↔
      meaning ((closedLines pieces).map fun line => lineText (leftover line)) =
        meaning ((((closedLines pieces).map List.reduceOption).filter
          (·.length ≤ maxLine)).map lineText) := by
  rw [DropsLongLines, shown_pushAll, shown_push, lineTexts, closedParts_withoutLongLines,
    ← map_reduceOption_closedLines]
  rfl

/-! ## Where long lines go unseen -/

theorem mem_of_mem_leftover {line : List (Option UInt8)} {b : UInt8} (h : b ∈ leftover line) :
    some b ∈ line := by
  induction line using List.reverseRecOn with
  | nil => exact absurd h List.not_mem_nil
  | append_singleton line x ih =>
      rw [leftover_concat] at h
      rw [List.mem_append, List.mem_singleton]
      cases x with
      | none =>
          rw [keep] at h
          split at h
          · exact absurd h List.not_mem_nil
          · exact .inl (ih h)
      | some c =>
          rcases List.mem_append.mp h with hearlier | hlast
          · exact .inl (ih hearlier)
          · exact .inr (congrArg some (List.mem_singleton.mp hlast))

theorem meaning_leftover {lines : List (List (Option UInt8))}
    (h : ∀ line ∈ lines, maxLine < line.reduceOption.length →
      HasNoEffect (lineText (leftover line))) (first : List (List Char)) :
    meaning (first ++ lines.map fun line => lineText (leftover line)) =
      meaning (first ++
        ((lines.map List.reduceOption).filter (·.length ≤ maxLine)).map lineText) := by
  induction lines generalizing first with
  | nil => rfl
  | cons line lines ih =>
      obtain ⟨hline, hlines⟩ := List.forall_mem_cons.mp h
      rw [List.map_cons, List.map_cons]
      by_cases hshort : line.reduceOption.length ≤ maxLine
      · have hread := ih hlines (first ++ [lineText line.reduceOption])
        rw [List.append_assoc, List.append_assoc] at hread
        rw [leftover_of_length_le hshort, List.filter_cons_of_pos (by simpa using hshort)]
        exact hread
      · rw [(hline (Nat.lt_of_not_le hshort)).meaning_eq,
          List.filter_cons_of_neg (by simpa using hshort), ih hlines]

theorem dropsLongLines_of_leavesOnly {pieces : List (List UInt8)}
    (h : LeavesOnly (fun rest => HasNoEffect (lineText rest)) pieces) : DropsLongLines pieces :=
  (dropsLongLines_iff pieces).mpr (meaning_leftover h [])

/-! ## Where they do not -/

def cutLine (first rest after : List UInt8) : List (List UInt8) :=
  [first ++ List.replicate (maxLine + 1) 0x78, rest ++ 0x0a :: after]

theorem closedLines_cutLine {first rest : List UInt8} (hfirst : openPart 0x0a first = [])
    (hrest : 0x0a ∉ rest) (after : List UInt8) :
    closedLines (cutLine first rest after) =
      (closedParts 0x0a first).map (List.map some) ++
        ((List.replicate (maxLine + 1) 0x78).map some ++ none :: rest.map some) ::
          (closedParts 0x0a after).map (List.map some) := by
  have hmarked : marked (cutLine first rest after) =
      (first.map some ++ ((List.replicate (maxLine + 1) 0x78).map some ++ none :: rest.map some)) ++
        some 0x0a :: (after.map some ++ [none]) := by
    simp [marked, cutLine]
  have hline : some 0x0a ∉
      (List.replicate (maxLine + 1) 0x78).map some ++ none :: rest.map some := by
    simp [hrest]
  have hend : some (0x0a : UInt8) ∉ [none] := by simp
  rw [closedLines, hmarked, (parts_append_sep _ _ _).1, (parts_append_of_not_mem _ hline).1,
    (parts_append_of_not_mem _ hline).2, (parts_append_of_not_mem _ hend).1,
    (parts_map_some _ first).1, (parts_map_some _ first).2, (parts_map_some _ after).1, hfirst]
  rfl

theorem leftover_cutLine (rest : List UInt8) :
    leftover ((List.replicate (maxLine + 1) 0x78).map some ++ none :: rest.map some) = rest := by
  have hhead := leftover_map_some (List.replicate (maxLine + 1) 0x78)
  have hlong : maxLine < (List.replicate (maxLine + 1) (0x78 : UInt8)).length := by
    rw [List.length_replicate]
    exact Nat.lt_succ_self _
  have htail := leftover_map_some rest
  rw [leftover] at hhead htail
  rw [leftover, List.foldl_append, hhead, List.foldl_cons, keep, if_pos hlong, htail]

theorem reduceOption_cutLine (rest : List UInt8) :
    ((List.replicate (maxLine + 1) 0x78).map some ++ none :: rest.map some).reduceOption =
      List.replicate (maxLine + 1) 0x78 ++ rest := by
  rw [List.reduceOption_append, reduceOption_map_some, List.reduceOption_cons_of_none,
    reduceOption_map_some]

theorem leavesOnly_cutLine {Allowed : List UInt8 → Prop} {first rest after : List UInt8}
    (hfirst : openPart 0x0a first = []) (hrest : 0x0a ∉ rest) (hshort : HasShortLines first)
    (hshort' : HasShortLines after) (h : Allowed rest) :
    LeavesOnly Allowed (cutLine first rest after) := by
  have hwhole : ∀ stream, HasShortLines stream →
      ∀ line ∈ (closedParts 0x0a stream).map (List.map some),
        ¬maxLine < line.reduceOption.length := by
    intro stream hstream line hline
    obtain ⟨line, hmem, rfl⟩ := List.mem_map.mp hline
    rw [reduceOption_map_some]
    exact Nat.not_lt.mpr (hstream line hmem)
  rw [LeavesOnly, closedLines_cutLine hfirst hrest]
  intro line hline hlong
  rcases List.mem_append.mp hline with hbefore | hlater
  · exact absurd hlong (hwhole first hshort line hbefore)
  · rcases List.mem_cons.mp hlater with rfl | hafter
    · rwa [leftover_cutLine]
    · exact absurd hlong (hwhole after hshort' line hafter)

theorem leftTexts_cutLine {first rest : List UInt8} (hfirst : openPart 0x0a first = [])
    (hrest : 0x0a ∉ rest) (after : List UInt8) :
    leftTexts (cutLine first rest after) =
      lineTexts first ++ lineText rest :: lineTexts after := by
  rw [leftTexts, closedLines_cutLine hfirst hrest, List.map_append, List.map_cons,
    lineTexts_of_whole, lineTexts_of_whole, leftover_cutLine]

theorem filter_whole {stream : List UInt8} (h : HasShortLines stream) :
    (((closedParts 0x0a stream).map (List.map some)).map List.reduceOption).filter
      (·.length ≤ maxLine) = closedParts 0x0a stream := by
  have hlines : ((closedParts 0x0a stream).map (List.map some)).map List.reduceOption =
      closedParts 0x0a stream := by
    rw [List.map_map]
    exact (List.map_congr_left fun line _ => reduceOption_map_some line).trans (List.map_id _)
  rw [hlines]
  exact List.filter_eq_self.mpr fun line hline => decide_eq_true (h line hline)

theorem lineTexts_withoutLongLines {first rest after : List UInt8}
    (hfirst : openPart 0x0a first = []) (hrest : 0x0a ∉ rest) (hshort : HasShortLines first)
    (hshort' : HasShortLines after) :
    lineTexts (withoutLongLines (cutLine first rest after).flatten) =
      lineTexts first ++ lineTexts after := by
  have hlong : ¬(List.replicate (maxLine + 1) 0x78 ++ rest).length ≤ maxLine := by
    rw [List.length_append, List.length_replicate]
    omega
  rw [lineTexts, closedParts_withoutLongLines, ← map_reduceOption_closedLines,
    closedLines_cutLine hfirst hrest, List.map_append, List.map_cons, List.filter_append,
    reduceOption_cutLine, List.filter_cons_of_neg (by simpa using hlong), filter_whole hshort,
    filter_whole hshort', List.map_append]
  rfl

theorem meaning_of_dropsLongLines {first rest after : List UInt8}
    (hfirst : openPart 0x0a first = []) (hrest : 0x0a ∉ rest) (hshort : HasShortLines first)
    (hshort' : HasShortLines after) (h : DropsLongLines (cutLine first rest after)) :
    meaning (lineTexts first ++ lineText rest :: lineTexts after) =
      meaning (lineTexts first ++ lineTexts after) := by
  rwa [DropsLongLines, shown_pushAll, shown_push, leftTexts_cutLine hfirst hrest,
    lineTexts_withoutLongLines hfirst hrest hshort hshort'] at h

def plainLines (lines : List String) : List UInt8 :=
  lines.flatMap fun line => line.toList.map (fun c => UInt8.ofNat c.toNat) ++ [0x0a]

theorem meaning_of_block {block : Block} (h : [] ∉ block) :
    meaning (block ++ [[]]) =
      ⟨block.event?.toList, block.id?, (retries (block ++ [[]])).getLast?⟩ := by
  have hblocks : blocks (block ++ [[]]) = [block] := by
    rw [blocks, (parts_concat_sep [] block).1, (parts_of_not_mem h).1, (parts_of_not_mem h).2]
    rfl
  rw [meaning, hblocks]
  cases hevent : block.event? <;> cases hid : block.id? <;> simp [hevent, hid]

theorem block_of_meaning {block : Block} {line : List Char} (hblock : [] ∉ block)
    (hline : line ≠ []) (h : meaning (block ++ line :: [[]]) = meaning (block ++ [[]])) :
    Block.event? (block ++ [line]) = block.event? ∧ Block.id? (block ++ [line]) = block.id? := by
  have hlonger : [] ∉ block ++ [line] := by simp [hblock, Ne.symm hline]
  rw [List.append_cons, meaning_of_block hlonger, meaning_of_block hblock] at h
  obtain ⟨hevent, hid, -⟩ := Meaning.mk.inj h
  refine ⟨?_, hid⟩
  rw [← Option.head?_toList (o := Block.event? _), hevent, Option.head?_toList]

theorem name_of_event? {block : Block} {event : Event} (h : block.event? = some event) :
    event.event = block.name := by
  rw [Block.event?] at h
  split at h
  · cases h
  · cases h
    rfl

theorem name_concat {line value : List Char} (h : value? "event" line = some value)
    (block : Block) : Block.name (block ++ [line]) = Block.name [line] := by
  have hblock := values_concat "event" block line
  have hline := values_concat "event" [] line
  rw [h, Option.toList_some] at hblock hline
  rw [Block.name, Block.name, hblock, ← List.nil_append [line], hline, List.getLast?_concat,
    List.getLast?_concat]

theorem hasNoEffect_of_meaning {line : List Char}
    (h : ∀ first after : List UInt8, openPart 0x0a first = [] → HasShortLines first →
      HasShortLines after →
        meaning (lineTexts first ++ line :: lineTexts after) =
          meaning (lineTexts first ++ lineTexts after)) :
    HasNoEffect line := by
  have hblank : line ≠ [] := by
    rintro rfl
    have hsame := h (plainLines ["data"]) (plainLines ["data", ""]) (by decide) (by decide)
      (by decide)
    exact absurd hsame (by decide)
  have hclosed : ∀ first : List UInt8, openPart 0x0a first = [] → HasShortLines first →
      meaning (lineTexts first ++ line :: [[]]) = meaning (lineTexts first ++ [[]]) :=
    fun first hfirst hshort => h first (plainLines [""]) hfirst hshort (by decide)
  obtain ⟨hevent, hid⟩ := block_of_meaning List.not_mem_nil hblank (hclosed [] rfl (by decide))
  have hretry := congrArg Meaning.retry (h [] [] rfl (by decide) (by decide))
  refine { ne_nil := hblank, event := ?_, data := ?_, id := ?_, retry := ?_ }
  · cases hvalue : value? "event" line with
    | none => rfl
    | some value =>
        have hname : ∀ first : List UInt8, openPart 0x0a first = [] → HasShortLines first →
            [] ∉ lineTexts first → ∀ event, Block.event? (lineTexts first) = some event →
              event.event = Block.name [line] := by
          intro first hfirst hshort hblock event hfound
          have hsame := (block_of_meaning hblock hblank (hclosed first hfirst hshort)).1
          rw [← name_concat hvalue (lineTexts first)]
          exact name_of_event? (hsame.trans hfound)
        have hx := hname (plainLines ["event:x", "data"]) (by decide) (by decide) (by decide)
          ⟨"x", "", none⟩ (by decide)
        have hy := hname (plainLines ["event:y", "data"]) (by decide) (by decide) (by decide)
          ⟨"y", "", none⟩ (by decide)
        exact absurd (hx.trans hy.symm) (by decide)
  · cases hvalue : value? "data" line with
    | none => rfl
    | some value =>
        have hdata : values "data" ([] ++ [line]) = [value] := by
          rw [values_concat, hvalue]
          rfl
        rw [Block.event?, hdata] at hevent
        cases hevent
  · rw [Block.id?_concat] at hid
    exact Option.map_eq_none_iff.mp ((Option.or_none).symm.trans hid)
  · have hasked : (retries ([] ++ [line])).getLast? = none := hretry
    rw [retries_concat, getLast?_append_toList] at hasked
    exact (Option.or_eq_none_iff.mp hasked).1

/-! ## The exact condition -/

/--
Lines that are too long are dropped whole as long as nothing with an effect is left of
them, and no weaker condition on what is left of them will do.
-/
theorem long_lines_dropped_iff (Allowed : List UInt8 → Prop) :
    (∀ pieces, LeavesOnly Allowed pieces → DropsLongLines pieces) ↔
      ∀ rest, 0x0a ∉ rest → Allowed rest → HasNoEffect (lineText rest) := by
  constructor
  · intro h rest hrest hallowed
    apply hasNoEffect_of_meaning
    intro first after hfirst hshort hshort'
    exact meaning_of_dropsLongLines hfirst hrest hshort hshort'
      (h _ (leavesOnly_cutLine hfirst hrest hshort hshort' hallowed))
  · intro h pieces hleaves
    apply dropsLongLines_of_leavesOnly
    intro line hline hlong
    have hwithin := (sep_not_mem_parts (some (0x0a : UInt8)) (marked pieces)).1 line hline
    exact h _ (mt mem_of_mem_leftover hwithin) (hleaves line hline hlong)

/-- What comes after a long line was dropped is read as a line of its own. -/
theorem rest_of_dropped_line_read :
    let pieces := [List.replicate (maxLine + 1) 0x78, plainLines ["data: a", ""]]
    (({} : Decoder).pushAll pieces).1 = [⟨"message", "a", none⟩] ∧
      (({} : Decoder).push (withoutLongLines pieces.flatten)).1 = [] := by
  intro pieces
  have hpieces : pieces = cutLine [] [0x64, 0x61, 0x74, 0x61, 0x3a, 0x20, 0x61] [0x0a] := rfl
  have hrest : (0x0a : UInt8) ∉ [0x64, 0x61, 0x74, 0x61, 0x3a, 0x20, 0x61] := by decide
  constructor
  · have hread := congrArg Meaning.events (shown_pushAll pieces)
    rw [hpieces, leftTexts_cutLine rfl hrest, Decoder.shown_events] at hread
    rw [hpieces, hread]
    decide
  · have hread := congrArg Meaning.events (shown_push (withoutLongLines pieces.flatten))
    rw [hpieces, lineTexts_withoutLongLines rfl hrest (by decide) (by decide),
      Decoder.shown_events] at hread
    rw [hpieces, hread]
    decide

end FeedReader.EventStream
