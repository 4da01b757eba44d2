import FeedReader.Proofs.EventStream.Blocks

/-!
# A stream after another one

A decoder that is reset has forgotten what was unfinished: the next stream gives it the events
and the unfinished block that it gives a new decoder.  From before it knows the last id and the
delay, which stand until the next stream brings others.

Where a stream is cut matters only if a line is dropped, and a line is dropped only if it is too
long at a cut.
-/

namespace FeedReader.EventStream.Decoder

theorem pushAll_reset_eq (d : Decoder) (pieces : List (List UInt8)) :
    let alone := ({} : Decoder).pushAll pieces
    d.reset.pushAll pieces = (alone.1, { alone.2 with
      lastEventId := alone.2.lastEventId.or d.lastEventId
      retry := alone.2.retry.or d.retry }) := by
  have hfresh : ({} : Decoder) = ({} : Decoder).reset := rfl
  rw [hfresh, pushAll_reset, pushAll_reset]
  simp [after]

/--
Over a reset, a decoder keeps the last id and the delay, which may come from a block that was
never closed, and nothing else: in all other respects the stream that follows is read as if it
were the first one.  How a stream is cut makes no difference as long as no line is dropped.
-/
theorem reset_forgets_connection (first rest : List (List UInt8)) :
    let before : List Event × Decoder := ({} : Decoder).pushAll first
    let alone : List Event × Decoder := ({} : Decoder).pushAll rest
    before.2.reset.pushAll rest = (alone.1, { alone.2 with
        lastEventId := alone.2.lastEventId.or before.2.lastEventId
        retry := alone.2.retry.or before.2.retry }) ∧
      (KeepsLines first →
        shown before = meaning (lineTexts first.flatten) ∧
          before.2.retry = (retries (lineTexts first.flatten)).getLast?) ∧
      (KeepsLines rest → ∀ cuts, cuts.flatten = rest.flatten → KeepsLines cuts →
        shown (({} : Decoder).pushAll cuts) = shown alone) := by
  intro before alone
  refine ⟨pushAll_reset_eq _ rest, ?_, ?_⟩
  · intro hkeeps
    have hshown : shown before = meaning (lineTexts first.flatten) := by
      rw [← hkeeps.leftTexts_eq]
      exact shown_pushAll first
    exact ⟨hshown, congrArg Meaning.retry hshown⟩
  · intro hkeeps cuts hcuts hkeeps'
    rw [shown_pushAll, shown_pushAll, hkeeps.leftTexts_eq, hkeeps'.leftTexts_eq, hcuts]

theorem reset_forgets_open_block :
    let first := ["id: 7\ndata: a\n\nretry: 25".toUTF8.toList,
      "00\nid: 8\ndata: ".toUTF8.toList ++ [0xc3]]
    let rest := [[0xa9, 0x0d], "\n\ndata: b\r".toUTF8.toList, "\n\n".toUTF8.toList]
    let before := ({} : Decoder).pushAll first
    let after := before.2.reset.pushAll rest
    KeepsLines first ∧ before.2.retry = some 2500 ∧ after.1 = [⟨"message", "b", none⟩] ∧
      after.2.lastEventId = some "7" ∧ after.2.retry = some 2500 := by
  intro first rest before after
  obtain ⟨hread, hbefore, -⟩ := reset_forgets_connection first rest
  have hafter : after = _ := hread
  have hkeeps : KeepsLines first := by decide +kernel
  have hretry : before.2.retry = some 2500 := by
    rw [(hbefore hkeeps).2]
    decide +kernel
  have hid : before.2.lastEventId = some "7" := by decide +kernel
  refine ⟨hkeeps, hretry, ?_, ?_, ?_⟩
  · rw [hafter]
    decide +kernel
  · rw [hafter, hid]
    decide +kernel
  · rw [hafter, hretry]
    decide +kernel

end FeedReader.EventStream.Decoder
