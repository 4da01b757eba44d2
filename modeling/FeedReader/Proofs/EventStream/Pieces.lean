import FeedReader.EventStream.Decoder

/-!
# An event stream in pieces

The decoder takes a stream byte by byte, so a cut between two pieces shows only
in the check on the unfinished line.  The check counts every byte that is kept,
and a carriage return is kept until the line feed comes.  So where lines are short
enough without their ends, a cut makes no difference unless it falls within the
end of a line that could not be longer.
-/

namespace FeedReader

/-! ## Plain text -/

theorem Text.foldl_feed_of_ascii {bytes : List UInt8} (h : ∀ b ∈ bytes, b < 0x80)
    (read : List Char) :
    bytes.foldl Utf8State.feed { read := read } =
      { read := (bytes.map fun b => Char.ofNat b.toNat).reverse ++ read } := by
  induction bytes generalizing read with
  | nil => rfl
  | cons b bytes ih =>
      obtain ⟨hb, hbytes⟩ := List.forall_mem_cons.mp h
      have hfeed : Utf8State.feed { read := read } b = { read := Char.ofNat b.toNat :: read } := by
        simp only [Utf8State.feed, Utf8State.lead, if_pos hb, Utf8State.emit]
      rw [List.foldl_cons, hfeed, ih hbytes, List.map_cons, List.reverse_cons, List.append_assoc]
      rfl

theorem Text.decodeLossy_of_ascii {bytes : List UInt8} (h : ∀ b ∈ bytes, b < 0x80) :
    decodeLossy bytes = bytes.map fun b => Char.ofNat b.toNat := by
  rw [decodeLossy, foldl_feed_of_ascii h, List.append_nil]
  exact List.reverse_reverse _

namespace EventStream.Decoder

/-! ## Byte by byte -/

theorem buffer_dispatch (d : Decoder) : d.dispatch.2.buffer = d.buffer := rfl

theorem buffer_field (d : Decoder) (line : List Char) : (d.field line).buffer = d.buffer := by
  simp only [field, apply_ite Decoder.buffer, ite_self]

theorem buffer_processLine (d : Decoder) (line : List Char) :
    (d.processLine line).2.buffer = d.buffer := by
  rw [processLine.eq_def]
  split
  · exact buffer_dispatch d
  · rfl
  · exact buffer_field d _

theorem buffer_feed (found : List Event) (d : Decoder) (b : UInt8) :
    (feed (found, d) b).2.buffer = if b = 0x0a then [] else b :: d.buffer := by
  rw [feed]
  split
  · have hbuffer := buffer_processLine { d with buffer := [] } (bufferedLine d.buffer)
    split
    · next hline =>
        rw [hline] at hbuffer
        exact hbuffer
    · next hline =>
        rw [hline] at hbuffer
        exact hbuffer
  · rfl

theorem feed_found (found : List Event) (d : Decoder) (b : UInt8) :
    feed (found, d) b = ((feed ([], d) b).1 ++ found, (feed ([], d) b).2) := by
  rw [feed, feed]
  split
  · split
    · rfl
    · rfl
  · rfl

theorem foldl_feed_found (bytes : List UInt8) (found : List Event) (d : Decoder) :
    bytes.foldl feed (found, d) =
      ((bytes.foldl feed ([], d)).1 ++ found, (bytes.foldl feed ([], d)).2) := by
  induction bytes generalizing found d with
  | nil => rfl
  | cons b bytes ih =>
      rw [List.foldl_cons, List.foldl_cons, feed_found, ih, ih (feed ([], d) b).1,
        List.append_assoc]

/-! ## Lines -/

/-- The lines of a stream.  The first goes on from what is buffered, the last is unfinished. -/
def lines (d : Decoder) (stream : List UInt8) : List (List UInt8) :=
  (stream.splitOn 0x0a).modifyHead (d.buffer.reverse ++ ·)

def unfinished (d : Decoder) (stream : List UInt8) : List UInt8 :=
  (d.lines stream).getLast?.getD []

def withoutReturn (line : List UInt8) : List UInt8 :=
  if line.getLast? = some 0x0d then line.dropLast else line

/-- Without its end, no line is longer than what is kept of an unfinished one. -/
def Fits (d : Decoder) (stream : List UInt8) : Prop :=
  ∀ line ∈ d.lines stream, (withoutReturn line).length ≤ maxLine

instance (d : Decoder) (stream : List UInt8) : Decidable (d.Fits stream) :=
  inferInstanceAs (Decidable (∀ line ∈ d.lines stream, (withoutReturn line).length ≤ maxLine))

theorem length_le_withoutReturn (line : List UInt8) :
    line.length ≤ (withoutReturn line).length + 1 := by
  rw [withoutReturn]
  split
  · rw [List.length_dropLast]
    omega
  · exact Nat.le_succ _

theorem lines_cons (d : Decoder) (b : UInt8) (stream : List UInt8) :
    d.lines (b :: stream) =
      if b = 0x0a then d.buffer.reverse :: stream.splitOn 0x0a
      else (stream.splitOn 0x0a).modifyHead ((b :: d.buffer).reverse ++ ·) := by
  rw [lines, List.splitOn, List.splitOnP_cons_eq_if_modifyHead]
  by_cases hb : b = 0x0a
  · simp [hb, List.splitOn]
  · cases hsplit : List.splitOn 0x0a stream with
    | nil => exact absurd hsplit (List.splitOn_ne_nil _ _)
    | cons first rest =>
        rw [List.splitOn] at hsplit
        simp [hb, hsplit]

theorem lines_feed_suffix (found : List Event) (d : Decoder) (b : UInt8) (stream : List UInt8) :
    (feed (found, d) b).2.lines stream <:+ d.lines (b :: stream) := by
  rw [lines_cons, lines, buffer_feed]
  split
  · cases stream.splitOn 0x0a with
    | nil => exact List.suffix_cons _ _
    | cons first rest => exact List.suffix_cons _ _
  · exact List.suffix_rfl

theorem lines_foldl_feed_suffix (found : List Event) (d : Decoder) (first rest : List UInt8) :
    (first.foldl feed (found, d)).2.lines rest <:+ d.lines (first ++ rest) := by
  induction first generalizing found d with
  | nil => exact List.suffix_rfl
  | cons b first ih =>
      rw [List.foldl_cons, List.cons_append]
      exact (ih (feed (found, d) b).1 (feed (found, d) b).2).trans
        (lines_feed_suffix found d b (first ++ rest))

theorem Fits.foldl_feed {d : Decoder} {first rest : List UInt8} (h : d.Fits (first ++ rest)) :
    (first.foldl feed ([], d)).2.Fits rest :=
  fun line hline => h line ((lines_foldl_feed_suffix [] d first rest).mem hline)

theorem unfinished_eq (d : Decoder) (stream : List UInt8) :
    d.unfinished stream = (stream.foldl feed ([], d)).2.buffer.reverse := by
  have hsuffix := lines_foldl_feed_suffix [] d stream []
  have hlines : (stream.foldl feed ([], d)).2.lines [] =
      [(stream.foldl feed ([], d)).2.buffer.reverse] := by
    simp [lines]
  rw [hlines, List.append_nil] at hsuffix
  obtain ⟨before, hbefore⟩ := hsuffix
  rw [unfinished, ← hbefore, List.getLast?_concat, Option.getD_some]

theorem unfinished_append (d : Decoder) (first rest : List UInt8) :
    d.unfinished (first ++ rest) = (first.foldl feed ([], d)).2.unfinished rest := by
  rw [unfinished_eq, unfinished_eq, List.foldl_append,
    foldl_feed_found rest (first.foldl feed ([], d)).1]

/-! ## Full lines -/

/-- A line that could not be longer, followed by the first of the two bytes that end it. -/
def IsFull (line : List UInt8) : Prop :=
  line.getLast? = some 0x0d ∧ line.length = maxLine + 1

instance (line : List UInt8) : Decidable (IsFull line) :=
  inferInstanceAs (Decidable (_ ∧ _))

/-- No cut parts the two bytes that end a full line. -/
def KeepsFullLines (d : Decoder) (pieces : List (List UInt8)) : Prop :=
  ∀ i ≤ pieces.length, (pieces.drop i).flatten.head? = some 0x0a →
    ¬IsFull (d.unfinished (pieces.take i).flatten)

instance (d : Decoder) (pieces : List (List UInt8)) : Decidable (d.KeepsFullLines pieces) :=
  inferInstanceAs (Decidable (∀ i ≤ pieces.length, _ → _))

theorem length_le_of_not_isFull {line : List UInt8} (h : (withoutReturn line).length ≤ maxLine)
    (hfull : ¬IsFull line) : line.length ≤ maxLine := by
  rw [IsFull, not_and] at hfull
  by_cases hreturn : line.getLast? = some 0x0d
  · have hlength := length_le_withoutReturn line
    have hbound := hfull hreturn
    omega
  · rwa [withoutReturn, if_neg hreturn] at h

theorem Fits.buffer_le {d : Decoder} {b : UInt8} {stream : List UInt8} (h : d.Fits (b :: stream))
    (hcut : b = 0x0a → ¬IsFull d.buffer.reverse) : d.buffer.length ≤ maxLine := by
  rw [Fits, lines_cons] at h
  split at h
  · next hb =>
      rw [← List.length_reverse]
      exact length_le_of_not_isFull (h _ List.mem_cons_self) (hcut hb)
  · cases hsplit : stream.splitOn 0x0a with
    | nil => exact absurd hsplit (List.splitOn_ne_nil _ _)
    | cons first rest =>
        rw [hsplit] at h
        have hfirst : (withoutReturn ((b :: d.buffer).reverse ++ first)).length ≤ maxLine :=
          h _ List.mem_cons_self
        have hlength := length_le_withoutReturn ((b :: d.buffer).reverse ++ first)
        rw [List.length_append, List.length_reverse, List.length_cons] at hlength
        omega

theorem KeepsFullLines.foldl_feed {d : Decoder} {piece : List UInt8} {pieces : List (List UInt8)}
    (h : d.KeepsFullLines (piece :: pieces)) :
    (piece.foldl feed ([], d)).2.KeepsFullLines pieces := by
  intro i hi hhead
  have hlater := h (i + 1) (Nat.succ_le_succ hi) hhead
  rwa [List.take_succ_cons, List.flatten_cons, unfinished_append] at hlater

/-! ## Pieces -/

def pushAll (d : Decoder) : List (List UInt8) → List Event × Decoder
  | [] => ([], d)
  | piece :: pieces =>
      let (found, next) := d.push piece
      let (more, last) := next.pushAll pieces
      (found ++ more, last)

theorem push_eq_of_buffer_le {d : Decoder} {piece : List UInt8}
    (h : (piece.foldl feed ([], d)).2.buffer.length ≤ maxLine) :
    d.push piece =
      ((piece.foldl feed ([], d)).1.reverse, (piece.foldl feed ([], d)).2) := by
  rw [push]
  dsimp only
  rw [if_neg (Nat.not_lt.mpr h)]

theorem push_nil {d : Decoder} (h : d.buffer.length ≤ maxLine) : d.push [] = ([], d) := by
  have hkept : ([].foldl feed ([], d)).2.buffer.length ≤ maxLine := h
  exact push_eq_of_buffer_le hkept

theorem push_append {d : Decoder} {first : List UInt8}
    (h : (first.foldl feed ([], d)).2.buffer.length ≤ maxLine) (rest : List UInt8) :
    d.push (first ++ rest) =
      ((d.push first).1 ++ ((d.push first).2.push rest).1, ((d.push first).2.push rest).2) := by
  rw [push_eq_of_buffer_le h, push, push, List.foldl_append,
    foldl_feed_found rest (first.foldl feed ([], d)).1]
  dsimp only
  rw [List.reverse_append]

theorem buffer_push_le (d : Decoder) (piece : List UInt8) :
    (d.push piece).2.buffer.length ≤ maxLine := by
  rw [push]
  dsimp only
  split
  · exact Nat.zero_le _
  · next hshort => exact Nat.not_lt.mp hshort

theorem pushAll_of_flatten_eq_nil {d : Decoder} {pieces : List (List UInt8)}
    (h : pieces.flatten = []) (hbuffer : d.buffer.length ≤ maxLine) :
    d.pushAll pieces = ([], d) := by
  induction pieces with
  | nil => rfl
  | cons piece pieces ih =>
      obtain ⟨rfl, hrest⟩ := List.append_eq_nil_iff.mp h
      rw [pushAll, push_nil hbuffer]
      exact ih hrest

/-! ## A cut within the end of a full line -/

theorem foldl_feed_of_not_mem {bytes : List UInt8} (h : 0x0a ∉ bytes) (found : List Event)
    (d : Decoder) :
    bytes.foldl feed (found, d) = (found, { d with buffer := bytes.reverse ++ d.buffer }) := by
  induction bytes generalizing d with
  | nil => rfl
  | cons b bytes ih =>
      obtain ⟨hb, hbytes⟩ := not_or.mp (mt List.mem_cons.mpr h)
      rw [List.foldl_cons, feed, if_neg (Ne.symm hb), ih hbytes, List.reverse_cons,
        List.append_assoc]
      rfl

/-- A full line is lost if its end is cut. -/
theorem push_full_line {d : Decoder} {line : List UInt8} (hmem : 0x0a ∉ line)
    (hfull : d.buffer.length + line.length = maxLine) :
    d.push (line ++ [0x0d]) = ([], { d with buffer := [] }) := by
  have hend : 0x0a ∉ line ++ [0x0d] := by simp [hmem]
  have hlong : maxLine < ((line ++ [0x0d]).reverse ++ d.buffer).length := by
    rw [List.length_append, List.length_reverse, List.length_append, List.length_singleton]
    omega
  rw [push, foldl_feed_of_not_mem hend]
  dsimp only
  rw [if_pos hlong]
  rfl

theorem processLine_data (d : Decoder) (text : List Char) :
    d.processLine (['d', 'a', 't', 'a', ':', ' '] ++ text) =
      (none, { d with data := String.ofList text :: d.data }) := by
  simp [processLine, field, splitField]

theorem feed_data_line {line : List UInt8} {text : List Char}
    (h : Text.decodeLossy line = ['d', 'a', 't', 'a', ':', ' '] ++ text) (found : List Event)
    (d : Decoder) :
    feed (found, { d with buffer := 0x0d :: line.reverse }) 0x0a =
      (found, { d with buffer := [], data := String.ofList text :: d.data }) := by
  have hline : bufferedLine (0x0d :: line.reverse) = ['d', 'a', 't', 'a', ':', ' '] ++ text := by
    rw [bufferedLine, List.reverse_reverse, h]
  rw [feed, if_pos rfl]
  dsimp only
  rw [hline, processLine_data]

/-! ## Whole streams -/

/-- Where a stream is cut makes no difference, neither to its events nor to what comes after. -/
theorem pushAll_eq_push (d : Decoder) (pieces : List (List UInt8))
    (hbuffer : d.buffer.length ≤ maxLine) (hfits : d.Fits pieces.flatten)
    (hcuts : d.KeepsFullLines pieces) : d.pushAll pieces = d.push pieces.flatten := by
  induction pieces generalizing d with
  | nil => exact (push_nil hbuffer).symm
  | cons piece pieces ih =>
      rw [List.flatten_cons] at hfits ⊢
      have hkept := hcuts.foldl_feed
      have hrest := hfits.foldl_feed
      rw [pushAll]
      dsimp only
      cases hstream : pieces.flatten with
      | nil =>
          rw [pushAll_of_flatten_eq_nil hstream (buffer_push_le d piece), List.append_nil,
            List.append_nil]
      | cons b rest =>
          have hshort : (piece.foldl feed ([], d)).2.buffer.length ≤ maxLine := by
            rw [hstream] at hrest
            apply hrest.buffer_le
            rintro rfl
            have hfirst := hkept 0 (Nat.zero_le _) (by rw [List.drop_zero, hstream]; rfl)
            rwa [List.take_zero, List.flatten_nil, unfinished_eq] at hfirst
          have hnext : (d.push piece).2 = (piece.foldl feed ([], d)).2 := by
            rw [push_eq_of_buffer_le hshort]
          rw [← hstream, push_append hshort, hnext, ih _ hshort hrest hkept]

theorem pushAll_eq_push_of_odd_cuts :
    let d : Decoder := { buffer := [0x61, 0x64], lastEventId := some "7" }
    let pieces := [[0x74], [0x61, 0x3a, 0xc3], [], [0xa9, 0x0d], [0x0a, 0x0d], [0x0a, 0x3a]]
    d.buffer.length ≤ maxLine ∧ d.Fits pieces.flatten ∧ d.KeepsFullLines pieces ∧
      d.pushAll pieces = d.push pieces.flatten ∧
      (d.push pieces.flatten).1 = [⟨"message", "é", none⟩] := by
  intro d pieces
  have hbuffer : d.buffer.length ≤ maxLine := by decide
  have hfits : d.Fits pieces.flatten := by decide
  have hcuts : d.KeepsFullLines pieces := by decide
  exact ⟨hbuffer, hfits, hcuts, pushAll_eq_push d pieces hbuffer hfits hcuts, by decide⟩

/-- An event is lost with a full line whose end is cut, and is found in the whole stream. -/
theorem pushAll_ne_push_of_cut_end :
    let d : Decoder := {}
    let line : List UInt8 :=
      [0x64, 0x61, 0x74, 0x61, 0x3a, 0x20] ++ List.replicate (maxLine - 6) 0x61
    let pieces := [line ++ [0x0d], [0x0a, 0x0a]]
    d.buffer.length ≤ maxLine ∧ d.Fits pieces.flatten ∧ (d.pushAll pieces).1 = [] ∧
      (d.push pieces.flatten).1 =
        [⟨"message", String.ofList (List.replicate (maxLine - 6) 'a'), none⟩] := by
  have hroom : maxLine - 6 + 6 = maxLine := Nat.sub_add_cancel (by decide)
  generalize maxLine - 6 = n at hroom
  intro d line pieces
  have hmem : 0x0a ∉ line := by simp [line]
  have hend : 0x0a ∉ line ++ [0x0d] := by simp [hmem]
  have hlength : line.length = maxLine := by
    rw [List.length_append, List.length_replicate, ← hroom]
    exact Nat.add_comm _ _
  have hflatten : pieces.flatten = (line ++ [0x0d]) ++ 0x0a :: [0x0a] := by simp [pieces]
  refine ⟨Nat.zero_le _, ?_, ?_, ?_⟩
  · have hrest : List.splitOn (0x0a : UInt8) [0x0a] = [[], []] := by decide
    have hlines : d.lines pieces.flatten = [line ++ [0x0d], [], []] := by
      rw [lines, hflatten, List.splitOn_append_cons_self, List.splitOn_eq_singleton hend, hrest]
      simp [d]
    rw [Fits, hlines]
    simp [withoutReturn, hlength]
  · have hdropped : d.push (line ++ [0x0d]) = ([], {}) :=
      push_full_line hmem ((Nat.zero_add _).trans hlength)
    rw [pushAll, hdropped]
    rfl
  · have hascii : ∀ b ∈ line, b < 0x80 := by simp [line]
    have htext : Text.decodeLossy line =
        ['d', 'a', 't', 'a', ':', ' '] ++ List.replicate n 'a' := by
      rw [Text.decodeLossy_of_ascii hascii]
      simp [line]
    have hkept : (line ++ [0x0d]).foldl feed ([], d) =
        ([], { d with buffer := 0x0d :: line.reverse }) := by
      rw [foldl_feed_of_not_mem hend]
      simp [d]
    rw [push, hflatten, List.foldl_append, hkept, List.foldl_cons, feed_data_line htext]
    rfl

end EventStream.Decoder

end FeedReader
