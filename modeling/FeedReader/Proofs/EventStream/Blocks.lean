import FeedReader.Proofs.EventStream.Lines
import Mathlib.Data.List.TakeWhile

/-!
# What an event stream means

A stream is a list of lines, and empty lines end its blocks.  Each block is read by
itself: its fields give at most one event and at most one id.  The decoder's state is
computed from the blocks that are closed and the one that is still open.
-/

namespace FeedReader.EventStream

/-! ## Fields -/

/--
The value that a line gives to a field: what follows the name and a colon, less one
space.  A line that is the name alone gives the empty value.
-/
def value? (name : String) (line : List Char) : Option (List Char) :=
  if line = name.toList then some []
  else (line.dropPrefix? (name.toList ++ [':'])).map fun value =>
    (value.dropPrefix? [' ']).getD value

def values (name : String) (lines : List (List Char)) : List (List Char) :=
  lines.filterMap (value? name)

theorem values_concat (name : String) (lines : List (List Char)) (line : List Char) :
    values name (lines ++ [line]) = values name lines ++ (value? name line).toList := by
  rw [values, List.filterMap_append, List.filterMap_cons]
  cases value? name line with
  | none => rfl
  | some value => rfl

theorem getLast?_append_toList {α : Type} (xs : List α) (last : Option α) :
    (xs ++ last.toList).getLast? = last.or xs.getLast? := by
  rw [List.getLast?_append]
  cases last with
  | none => rfl
  | some x => rfl

/-! ### Names and values -/

theorem Decoder.splitField_of_not_mem {line : List Char} (h : ':' ∉ line) :
    splitField line = (line, []) := by
  have hname : ∀ c ∈ line, decide (c ≠ ':') = true := by
    intro c hc
    exact decide_eq_true (ne_of_mem_of_not_mem hc h)
  rw [splitField, List.takeWhile_eq_self_iff.mpr hname, List.dropWhile_eq_nil_iff.mpr hname]

theorem Decoder.splitField_append {name : List Char} (h : ':' ∉ name) (value : List Char) :
    splitField (name ++ ':' :: value) = (name, (value.dropPrefix? [' ']).getD value) := by
  have hname : ∀ c ∈ name, decide (c ≠ ':') = true := by
    intro c hc
    exact decide_eq_true (ne_of_mem_of_not_mem hc h)
  rw [splitField, List.takeWhile_append_of_pos hname, List.dropWhile_append_of_pos hname]
  cases value with
  | nil => simp [List.dropPrefix?]
  | cons c rest =>
      by_cases hc : c = ' '
      · simp [hc, List.dropPrefix?]
      · simp [hc, List.dropPrefix?]

theorem value?_eq {name : String} (h : ':' ∉ name.toList) (line : List Char) :
    value? name line =
      if (Decoder.splitField line).1 = name.toList then some (Decoder.splitField line).2
      else none := by
  rw [value?]
  by_cases hcolon : ':' ∈ line
  · obtain ⟨start, value, rfl, hstart⟩ := List.eq_append_cons_of_mem hcolon
    have hline : start ++ ':' :: value ≠ name.toList := fun hline => h (hline ▸ hcolon)
    rw [if_neg hline, Decoder.splitField_append hstart]
    by_cases hname : start = name.toList
    · have hvalue : (start ++ ':' :: value).dropPrefix? (name.toList ++ [':']) = some value :=
        List.dropPrefix?_eq_some_iff.mpr ⟨start ++ [':'], by simp, by simp [hname]⟩
      rw [hvalue, if_pos hname, Option.map_some]
    · have hvalue : (start ++ ':' :: value).dropPrefix? (name.toList ++ [':']) = none := by
        rw [Option.eq_none_iff_forall_ne_some]
        intro rest hrest
        obtain ⟨begun, hsplit, hbegun⟩ := List.dropPrefix?_eq_some_iff.mp hrest
        rw [eq_of_beq hbegun, List.append_assoc, List.singleton_append] at hsplit
        have hfield := congrArg Decoder.splitField hsplit
        rw [Decoder.splitField_append hstart, Decoder.splitField_append h] at hfield
        exact hname (Prod.mk.inj hfield).1
      rw [hvalue, if_neg hname, Option.map_none]
  · have hvalue : line.dropPrefix? (name.toList ++ [':']) = none := by
      rw [Option.eq_none_iff_forall_ne_some]
      intro rest hrest
      obtain ⟨begun, rfl, hbegun⟩ := List.dropPrefix?_eq_some_iff.mp hrest
      exact hcolon (by simp [eq_of_beq hbegun])
    rw [Decoder.splitField_of_not_mem hcolon, hvalue, Option.map_none]

/-! ## Blocks -/

abbrev Block := List (List Char)

namespace Block

/-- A value with a NUL in it is no id. -/
def id? (block : Block) : Option String :=
  ((values "id" block).filter ('\x00' ∉ ·)).getLast?.map String.ofList

def name (block : Block) : String :=
  (((values "event" block).getLast?.filter (· ≠ [])).map String.ofList).getD "message"

def event? (block : Block) : Option Event :=
  match values "data" block with
  | [] => none
  | data => some {
      event := block.name
      data := String.intercalate "\n" (data.map String.ofList)
      id := block.id? }

theorem id?_concat (block : Block) (line : List Char) :
    id? (block ++ [line]) =
      (((value? "id" line).filter ('\x00' ∉ ·)).map String.ofList).or block.id? := by
  rw [id?, values_concat, List.filter_append, ← Option.toList_filter, getLast?_append_toList,
    Option.map_or]
  rfl

end Block

def blocks (lines : List (List Char)) : List Block := closedParts [] lines

def retries (lines : List (List Char)) : List Nat := (values "retry" lines).filterMap Text.word?

theorem retries_concat (lines : List (List Char)) (line : List Char) :
    retries (lines ++ [line]) =
      retries lines ++ ((value? "retry" line).bind Text.word?).toList := by
  rw [retries, values_concat, List.filterMap_append, retries]
  cases value? "retry" line with
  | none => rfl
  | some value => cases hword : Text.word? value <;> simp [hword]

structure Meaning where
  events : List Event
  lastEventId : Option String
  retry : Option Nat
  deriving DecidableEq, Repr

/-- Events and ids are those of closed blocks; a delay counts wherever it is asked for. -/
def meaning (lines : List (List Char)) : Meaning where
  events := (blocks lines).filterMap Block.event?
  lastEventId := ((blocks lines).filterMap Block.id?).getLast?
  retry := (retries lines).getLast?

/-! ### Lines without effect -/

def fieldNames : List String := ["event", "data", "id", "retry"]

/-- A comment, or a field of another name. -/
def IsForeign (line : List Char) : Prop :=
  line.head? = some ':' ∨
    line ≠ [] ∧ line.takeWhile (· ≠ ':') ∉ fieldNames.map String.toList

instance (line : List Char) : Decidable (IsForeign line) := inferInstanceAs (Decidable (_ ∨ _))

structure HasNoEffect (line : List Char) : Prop where
  ne_nil : line ≠ []
  event : value? "event" line = none
  data : value? "data" line = none
  id : (value? "id" line).filter ('\x00' ∉ ·) = none
  retry : (value? "retry" line).bind Text.word? = none

theorem IsForeign.hasNoEffect {line : List Char} (h : IsForeign line) : HasNoEffect line := by
  obtain ⟨hline, hname⟩ :
      line ≠ [] ∧ line.takeWhile (· ≠ ':') ∉ fieldNames.map String.toList := by
    rcases h with hcomment | hother
    · obtain ⟨rest, rfl⟩ := List.head?_eq_some_iff.mp hcomment
      have hname : (':' :: rest).takeWhile (· ≠ ':') = [] := rfl
      exact ⟨List.cons_ne_nil _ _, hname ▸ by decide⟩
    · exact hother
  have hvalue : ∀ name ∈ fieldNames, value? name line = none := by
    intro name hmem
    have hcolon : ∀ name ∈ fieldNames, ':' ∉ name.toList := by decide
    rw [value?_eq (hcolon name hmem)]
    exact if_neg fun hfield => hname (List.mem_map.mpr ⟨name, hmem, hfield.symm⟩)
  exact {
    ne_nil := hline
    event := hvalue _ (by decide)
    data := hvalue _ (by decide)
    id := by rw [hvalue _ (by decide), Option.filter_none]
    retry := by rw [hvalue _ (by decide), Option.bind_none] }

namespace Decoder

def after (d : Decoder) (lines : List (List Char)) : Decoder :=
  let block : Block := openPart [] lines
  { event := (values "event" block).getLast?.map String.ofList
    data := ((values "data" block).map String.ofList).reverse
    id := block.id?
    lastEventId := ((blocks lines).filterMap Block.id?).getLast?.or d.lastEventId
    retry := (retries lines).getLast?.or d.retry }

theorem field_eq (d : Decoder) (line : List Char) :
    d.field line = { d with
      event := ((value? "event" line).map String.ofList).or d.event
      data := ((value? "data" line).map String.ofList).toList ++ d.data
      id := (((value? "id" line).filter ('\x00' ∉ ·)).map String.ofList).or d.id
      retry := ((value? "retry" line).bind Text.word?).or d.retry } := by
  rw [field, value?_eq (by decide), value?_eq (by decide), value?_eq (by decide),
    value?_eq (by decide)]
  obtain ⟨name, value⟩ := splitField line
  dsimp only
  by_cases hevent : name = "event".toList
  · simp [hevent]
  by_cases hdata : name = "data".toList
  · simp [hdata]
  by_cases hid : name = "id".toList
  · by_cases hnul : '\x00' ∈ value
    · simp [hid, hnul, Option.filter]
    · simp [hid, hnul, Option.filter]
  by_cases hretry : name = "retry".toList
  · simp [hretry]
  · simp only [if_neg hevent, if_neg hdata, if_neg hid, if_neg hretry]
    rfl

theorem processLine_of_ne_nil (d : Decoder) {line : List Char} (h : line ≠ []) :
    d.processLine line = (none, d.field line) := by
  rw [processLine.eq_def]
  split
  · exact absurd rfl h
  · simp [field, splitField]
  · rfl

/-! ### One line more -/

theorem after_concat (d : Decoder) (lines : List (List Char)) {line : List Char} (h : line ≠ []) :
    d.after (lines ++ [line]) = (d.after lines).field line := by
  have hblock : ([] : List Char) ∉ [line] := by simp [Ne.symm h]
  rw [after, after, field_eq, blocks, blocks, (parts_append_of_not_mem lines hblock).1,
    (parts_append_of_not_mem lines hblock).2, retries_concat]
  dsimp only
  rw [Block.id?_concat, values_concat, values_concat, getLast?_append_toList,
    getLast?_append_toList, Option.map_or, List.map_append, List.reverse_append, Option.or_assoc]
  cases value? "data" line with
  | none => rfl
  | some value => rfl

theorem after_concat_nil (d : Decoder) (lines : List (List Char)) :
    d.after (lines ++ [[]]) = (d.after lines).dispatch.2 := by
  have hids : ((blocks lines ++ [openPart [] lines]).filterMap Block.id?).getLast? =
      (Block.id? (openPart [] lines)).or ((blocks lines).filterMap Block.id?).getLast? := by
    rw [List.filterMap_append, ← getLast?_append_toList]
    cases hid : Block.id? (openPart [] lines) <;> simp [hid]
  rw [after, after, dispatch, blocks, (parts_concat_sep [] lines).1, (parts_concat_sep [] lines).2,
    retries_concat, ← blocks, hids, Option.or_assoc, getLast?_append_toList]
  rfl

theorem name_eq (block : Block) :
    (((values "event" block).getLast?.map String.ofList).filter (· ≠ "")).getD "message" =
      block.name := by
  rw [Block.name]
  cases (values "event" block).getLast? with
  | none => rfl
  | some value =>
      cases value with
      | nil => rfl
      | cons c rest =>
          simp [Option.filter]

theorem dispatch_after (d : Decoder) (lines : List (List Char)) :
    (d.after lines).dispatch.1 = Block.event? (openPart [] lines) := by
  rw [after, dispatch, Block.event?]
  dsimp only
  cases hdata : values "data" (openPart [] lines) with
  | nil => rfl
  | cons first rest =>
      have hnotes : ((first :: rest).map String.ofList).reverse ≠ [] := by simp
      rw [name_eq]
      split
      · next hnil => exact absurd hnil hnotes
      · rw [List.reverse_reverse]

theorem processLine_after (d : Decoder) (lines : List (List Char)) (line : List Char) :
    (d.after lines).processLine line =
      (if line = [] then Block.event? (openPart [] lines) else none,
        d.after (lines ++ [line])) := by
  by_cases h : line = []
  · subst h
    rw [if_pos rfl, after_concat_nil, ← dispatch_after d]
    rfl
  · rw [if_neg h, after_concat d lines h, processLine_of_ne_nil _ h]

theorem readLines_reset (d : Decoder) (lines : List (List Char)) :
    d.reset.readLines lines = ((blocks lines).filterMap Block.event?, d.after lines) := by
  induction lines using List.reverseRecOn with
  | nil => rfl
  | append_singleton lines line ih =>
      rw [readLines_concat, ih, processLine_after]
      by_cases h : line = []
      · subst h
        rw [if_pos rfl, blocks, blocks, (parts_concat_sep [] lines).1, List.filterMap_append]
        cases hevent : Block.event? (openPart [] lines) <;> simp [hevent]
      · have hblock : ([] : List Char) ∉ [line] := by simp [Ne.symm h]
        rw [if_neg h, blocks, blocks, (parts_append_of_not_mem lines hblock).1, Option.toList_none,
          List.append_nil]

/-! ## Streams -/

def shown (progress : List Event × Decoder) : Meaning where
  events := progress.1
  lastEventId := progress.2.lastEventId
  retry := progress.2.retry

@[simp] theorem shown_events (progress : List Event × Decoder) :
    (shown progress).events = progress.1 := rfl

theorem pushAll_reset (d : Decoder) (pieces : List (List UInt8)) :
    d.reset.pushAll pieces =
      ((blocks (leftTexts pieces)).filterMap Block.event?, { d.after (leftTexts pieces) with
        buffer := (leftover (openPart (some 0x0a) (marked pieces))).reverse }) := by
  rw [pushAll_eq_readLines rfl, readLines_reset]

theorem pushAll_new (pieces : List (List UInt8)) :
    (({} : Decoder).pushAll pieces).1 = (blocks (leftTexts pieces)).filterMap Block.event? :=
  congrArg Prod.fst (pushAll_reset {} pieces)

theorem shown_readLines (lines : List (List Char)) :
    shown (({} : Decoder).readLines lines) = meaning lines := by
  have hfresh : ({} : Decoder) = ({} : Decoder).reset := rfl
  rw [hfresh, readLines_reset]
  simp only [shown, after, meaning, Option.or_none]

theorem shown_pushAll (pieces : List (List UInt8)) :
    shown (({} : Decoder).pushAll pieces) = meaning (leftTexts pieces) := by
  rw [pushAll_eq_readLines rfl, ← shown_readLines]
  rfl

theorem shown_push (stream : List UInt8) :
    shown (({} : Decoder).push stream) = meaning (lineTexts stream) := by
  rw [push_eq_pushAll, shown_pushAll, leftTexts_singleton]

/-! ## Lines that may be left out -/

theorem processLine_of_hasNoEffect (d : Decoder) {line : List Char} (h : HasNoEffect line) :
    d.processLine line = (none, d) := by
  rw [processLine_of_ne_nil d h.ne_nil, field_eq, h.event, h.data, h.id, h.retry]
  rfl

theorem readLines_append_cons (d : Decoder) (first rest : List (List Char)) {line : List Char}
    (h : HasNoEffect line) :
    d.readLines (first ++ line :: rest) = d.readLines (first ++ rest) := by
  rw [readLines, readLines, List.foldl_append, List.foldl_append, List.foldl_cons, readLine,
    processLine_of_hasNoEffect _ h]
  dsimp only
  rw [Option.toList_none, List.append_nil]

end Decoder

theorem HasNoEffect.meaning_eq {line : List Char} (h : HasNoEffect line)
    (first rest : List (List Char)) :
    meaning (first ++ line :: rest) = meaning (first ++ rest) := by
  rw [← Decoder.shown_readLines, ← Decoder.shown_readLines,
    Decoder.readLines_append_cons _ _ _ h]

/-! ## The meaning of a stream -/

theorem lineTexts_append {first : List UInt8} (h : openPart 0x0a first = []) (rest : List UInt8) :
    lineTexts (first ++ rest) = lineTexts first ++ lineTexts rest := by
  rw [lineTexts, closedParts_append h, List.map_append]
  rfl

theorem lineTexts_append_line {first line : List UInt8} (h : openPart 0x0a first = [])
    (hline : 0x0a ∉ line) (rest : List UInt8) :
    lineTexts (first ++ line ++ 0x0a :: rest) =
      lineTexts first ++ lineText line :: lineTexts rest := by
  rw [lineTexts, (parts_append_sep _ _ _).1, (parts_append_of_not_mem first hline).1,
    (parts_append_of_not_mem first hline).2, h, List.map_append, List.map_cons, List.nil_append]
  rfl

/--
Read by a new decoder, a stream means what its closed blocks and its delays say, and
a comment or a field of another name may stand wherever a line begins.
-/
theorem meaning_of_stream (stream : List UInt8) :
    Decoder.shown (({} : Decoder).push stream) = meaning (lineTexts stream) ∧
      ∀ first line rest : List UInt8, stream = first ++ line ++ 0x0a :: rest →
        openPart 0x0a first = [] → 0x0a ∉ line → IsForeign (lineText line) →
        Decoder.shown (({} : Decoder).push stream) =
          Decoder.shown (({} : Decoder).push (first ++ rest)) := by
  refine ⟨Decoder.shown_push stream, ?_⟩
  rintro first line rest rfl hfirst hline hforeign
  rw [Decoder.shown_push, Decoder.shown_push, lineTexts_append_line hfirst hline,
    lineTexts_append hfirst, hforeign.hasNoEffect.meaning_eq]

theorem meaning_of_stream_with_comments :
    let first := "id: 7\r\nevent: note\n".toUTF8.toList
    let rest := "retry:20\ndata: a\ndata:b\n\ndata: c\n".toUTF8.toList
    let heard : Meaning := ⟨[⟨"note", "a\nb", some "7"⟩], some "7", some 20⟩
    Decoder.shown (({} : Decoder).push (first ++ rest)) = heard ∧
      ∀ line ∈ [": data\r".toUTF8.toList, "dates: x".toUTF8.toList, "idle".toUTF8.toList],
        Decoder.shown (({} : Decoder).push (first ++ line ++ 0x0a :: rest)) = heard := by
  intro first rest heard
  have hheard : Decoder.shown (({} : Decoder).push (first ++ rest)) = heard :=
    (meaning_of_stream (first ++ rest)).1.trans (by decide +kernel)
  have hforeign : ∀ line ∈ [": data\r".toUTF8.toList, "dates: x".toUTF8.toList,
      "idle".toUTF8.toList], 0x0a ∉ line ∧ IsForeign (lineText line) := by
    decide +kernel
  refine ⟨hheard, ?_⟩
  intro line hmem
  obtain ⟨hline, hother⟩ := hforeign line hmem
  rw [(meaning_of_stream _).2 first line rest rfl (by decide +kernel) hline hother, hheard]

end FeedReader.EventStream
