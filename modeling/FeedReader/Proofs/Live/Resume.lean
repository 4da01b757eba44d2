import FeedReader.Proofs.Live.Attempts

/-!
# Going on after the last event

An attempt names the last id that was read in a block closed by an empty line.  A block
that is open when its body ends is forgotten with its id.  Whatever closed blocks hold has
been reported by then, so going on after that id passes over nothing.
-/

namespace FeedReader

open EventStream (Block Decoder blocks lineTexts HasShortLines)

def EventStream.Block.entry? (kind : EntryKind) (block : Block) : Option Entry :=
  block.event?.bind fun event => (kind.decode event.data.toUTF8.toList).toOption

namespace Live

open Web (Answer Body)

/-! ## Blocks of bodies -/

def closedBlocks (answers : List Answer) : List Block :=
  (bodies answers).flatMap fun body => blocks (lineTexts body.pieces.flatten)

theorem closedBlocks_of_refused {answer : Answer} (h : body? answer = none)
    (answers : List Answer) : closedBlocks (answers ++ [answer]) = closedBlocks answers := by
  rw [closedBlocks, bodies_concat, h, Option.toList_none, List.append_nil, ← closedBlocks]

theorem closedBlocks_of_body {answer : Answer} {body : Body} (h : body? answer = some body)
    (answers : List Answer) :
    closedBlocks (answers ++ [answer]) =
      closedBlocks answers ++ blocks (lineTexts body.pieces.flatten) := by
  rw [closedBlocks, bodies_concat, h, Option.toList_some, List.flatMap_append,
    List.flatMap_singleton, ← closedBlocks]

def HaveShortLines (answers : List Answer) : Prop :=
  ∀ body ∈ bodies answers, HasShortLines body.pieces.flatten

instance (answers : List Answer) : Decidable (HaveShortLines answers) :=
  inferInstanceAs (Decidable (∀ body ∈ bodies answers, HasShortLines body.pieces.flatten))

theorem haveShortLines_concat (answers : List Answer) (answer : Answer) :
    HaveShortLines (answers ++ [answer]) ↔
      HaveShortLines answers ∧ ∀ body, body? answer = some body →
        HasShortLines body.pieces.flatten := by
  simp only [HaveShortLines, bodies_concat, List.mem_append, Option.mem_toList, or_imp, forall_and]

/-! ## Items -/

def LiveEvent.item? : LiveEvent → Option Entry
  | .item entry => some entry
  | _ => none

theorem item?_timeless (report : LiveEvent) : report.timeless.item? = report.item? := by
  cases report <;> rfl

theorem items_notices (kind : EntryKind) (earlier : List Answer) {answer : Answer} {body : Body}
    (h : body? answer = some body) :
    (notices kind earlier answer).filterMap LiveEvent.item? = arrivals kind body := by
  have hgreeting : (greeting earlier).item? = none := by
    rw [greeting]
    split
    · rfl
    · rfl
  have hitems : ((arrivals kind body).map LiveEvent.item).filterMap LiveEvent.item? =
      arrivals kind body := by
    rw [List.filterMap_map]
    exact List.filterMap_some
  rw [notices, h]
  dsimp only
  rw [List.filterMap_append, List.filterMap_cons_none hgreeting, hitems]
  exact List.append_nil _

theorem arrivals_of_hasShortLines (kind : EntryKind) {body : Body}
    (h : HasShortLines body.pieces.flatten) :
    arrivals kind body =
      (blocks (lineTexts body.pieces.flatten)).filterMap (Block.entry? kind) := by
  rw [arrivals, Decoder.pushAll_new, h.leftTexts_eq, List.filterMap_filterMap]
  rfl

theorem items_trace (kind : EntryKind) {answers : List Answer} (h : HaveShortLines answers) :
    (trace kind answers).filterMap LiveEvent.item? =
      (closedBlocks answers).filterMap (Block.entry? kind) := by
  induction answers using List.reverseRecOn with
  | nil => rfl
  | append_singleton answers answer ih =>
      obtain ⟨hearlier, hbody⟩ := (haveShortLines_concat answers answer).mp h
      rw [trace_concat, List.filterMap_append, ih hearlier]
      cases hanswer : body? answer with
      | none =>
          rw [closedBlocks_of_refused hanswer, notices, hanswer]
          exact List.append_nil _
      | some body =>
          rw [closedBlocks_of_body hanswer, List.filterMap_append, items_notices kind _ hanswer,
            arrivals_of_hasShortLines kind (hbody body hanswer)]

/-! ## Ids -/

namespace Stream

theorem lastEventId_run {s : Stream} (hfresh : s.decoder.lastEventId = none)
    {answers : List Answer} (hids : s.StoresLegalIds answers) (hshort : HaveShortLines answers) :
    (s.run answers).2.decoder.lastEventId =
      ((closedBlocks answers).filterMap Block.id?).getLast? := by
  induction answers using List.reverseRecOn with
  | nil => exact hfresh
  | append_singleton answers answer ih =>
      obtain ⟨hearlier, hid⟩ := (s.storesLegalIds_concat answers answer).mp hids
      obtain ⟨hshorter, hbody⟩ := (haveShortLines_concat answers answer).mp hshort
      rw [run_concat]
      cases hanswer : body? answer with
      | none =>
          rw [attempt_of_refused hid hanswer, closedBlocks_of_refused hanswer]
          exact ih hearlier hshorter
      | some body =>
          obtain ⟨retryIn, base, delay, hattempt⟩ := attempt_of_body hid hanswer
          rw [hattempt, closedBlocks_of_body hanswer, List.filterMap_append, List.getLast?_append,
            ← ih hearlier hshorter]
          dsimp only
          rw [Decoder.pushAll_reset, (hbody body hanswer).leftTexts_eq]
          rfl

/--
The attempt after `earlier` goes on after the last id of a closed block.  What closed
blocks hold has been reported before it, in order and once.
-/
theorem resume_of_run (resource : Resource) (backoff : Backoff) (server : Server) (url : Url)
    (earlier : List Answer) (hlive : resource.isLive) :
    ∃ s, start? resource backoff = some s ∧
      (s.StoresLegalIds earlier → HaveShortLines earlier →
        ((s.run earlier).2.request server url).headers.lookup "Last-Event-ID" =
            ((closedBlocks earlier).filterMap Block.id?).getLast? ∧
          (s.run earlier).1.filterMap LiveEvent.item? =
            (closedBlocks earlier).filterMap (Block.entry? resource.kind)) := by
  obtain ⟨s, hs, hfollows, hdecoder⟩ := start?_of_isLive hlive backoff
  refine ⟨s, hs, fun hids hshort => ⟨?_, ?_⟩⟩
  · have hid : s.decoder.lastEventId = none := by rw [hdecoder]
    rw [← lastEventId_run hid hids hshort, request, Web.request]
    cases (s.run earlier).2.decoder.lastEventId with
    | none => rfl
    | some id => rfl
  · have hitems : (s.run earlier).1.filterMap LiveEvent.item? =
        ((s.run earlier).1.map LiveEvent.timeless).filterMap LiveEvent.item? := by
      rw [List.filterMap_map]
      exact List.filterMap_congr fun report _ => (item?_timeless report).symm
    rw [hitems, (follows_of_run hfollows hids).1, items_trace resource.kind hshort]

theorem resume_of_interrupted :
    ∃ s, start? .timeline {} = some s ∧ s.StoresLegalIds interrupted ∧
      HaveShortLines interrupted ∧
      ((s.run interrupted).2.request { base := { scheme := "http".toList, path := ['/'] } }
          { scheme := "http".toList, path := "/api/timeline".toList }).headers.lookup
        "Last-Event-ID" = some "7" ∧
      (s.run interrupted).1.filterMap LiveEvent.item? =
        [.post { id := "p", createdAt := { seconds := 9 } },
          .post { id := "r", createdAt := { seconds := 9 } }] := by
  obtain ⟨s, hs, hresume⟩ := resume_of_run .timeline {}
    { base := { scheme := "http".toList, path := ['/'] } }
    { scheme := "http".toList, path := "/api/timeline".toList } interrupted rfl
  have hids : s.StoresLegalIds interrupted := by
    cases hs
    decide +kernel
  have hshort : HaveShortLines interrupted := by decide +kernel
  obtain ⟨hid, hitems⟩ := hresume hids hshort
  refine ⟨s, hs, hids, hshort, ?_, ?_⟩
  · rw [hid]
    decide +kernel
  · rw [hitems]
    decide +kernel

end Stream

end Live

end FeedReader
