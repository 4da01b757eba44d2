import FeedReader.Proofs.Live.Resume
import FeedReader.Proofs.Web.HeaderValues

/-!
# The stored id

The last id that was read survives resets, and every request that opens the stream names
it.  Of all characters only NUL keeps a value from being an id, but a header may hold no
other control character either: with such an id no request is sent any more, and as none
is sent, the id stays.
-/

namespace FeedReader

/-! ## Pieces and resets -/

namespace EventStream

inductive Input where
  | piece (bytes : List UInt8)
  | reset
  deriving DecidableEq

def Input.piece? : Input → Option (List UInt8)
  | .piece bytes => some bytes
  | .reset => none

namespace Decoder

def take (d : Decoder) : Input → Decoder
  | .piece bytes => (d.push bytes).2
  | .reset => d.reset

def takeAll (d : Decoder) (inputs : List Input) : Decoder := inputs.foldl take d

end Decoder

def stretches (inputs : List Input) : List (List (List UInt8)) :=
  (inputs.splitOn .reset).map (List.filterMap Input.piece?)

def lastClosedId (inputs : List Input) : Option String :=
  (((stretches inputs).flatMap fun pieces => blocks (leftTexts pieces)).filterMap
    Block.id?).getLast?

namespace Decoder

def restart (d : Decoder) (pieces : List (List UInt8)) : Decoder := (d.reset.pushAll pieces).2

theorem takeAll_eq (d : Decoder) (inputs : List Input) :
    d.reset.takeAll inputs = (stretches inputs).foldl restart d := by
  induction inputs using List.reverseRecOn with
  | nil => rfl
  | append_singleton inputs input ih =>
      rw [takeAll, List.foldl_concat, ← takeAll, ih, stretches, stretches, splitOn_eq, splitOn_eq,
        List.map_append, List.map_append, List.foldl_append, List.foldl_append]
      cases input with
      | reset =>
          rw [(parts_concat_sep _ inputs).1, (parts_concat_sep _ inputs).2, List.map_append,
            List.foldl_append]
          rfl
      | piece bytes =>
          have hother : Input.reset ∉ [Input.piece bytes] := by simp
          rw [(parts_append_of_not_mem inputs hother).1, (parts_append_of_not_mem inputs hother).2]
          simp only [List.map_cons, List.map_nil, List.foldl_cons, List.foldl_nil,
            List.filterMap_append, restart]
          rw [List.filterMap_cons_some (by rfl), List.filterMap_nil, pushAll_concat]
          rfl

theorem lastEventId_restart (d : Decoder) (pieces : List (List UInt8)) :
    (d.restart pieces).lastEventId =
      ((blocks (leftTexts pieces)).filterMap Block.id?).getLast?.or d.lastEventId := by
  rw [restart, pushAll_reset]
  rfl

theorem lastEventId_takeAll (inputs : List Input) :
    (({} : Decoder).takeAll inputs).lastEventId = lastClosedId inputs := by
  have hfresh : ({} : Decoder) = ({} : Decoder).reset := rfl
  rw [hfresh, takeAll_eq, lastClosedId]
  generalize stretches inputs = parts
  induction parts using List.reverseRecOn with
  | nil => rfl
  | append_singleton parts pieces ih =>
      rw [List.foldl_concat, lastEventId_restart, ih, List.flatMap_append, List.filterMap_append,
        List.getLast?_append, List.flatMap_singleton]

end Decoder

end EventStream

/-! ## Requests -/

namespace Live.Stream

open EventStream (Decoder Input lastClosedId)
open Web (Answer isHeaderChar isHeaderValue)

theorem opened_of_illegal {s : Stream} (h : ¬s.SendsLegalId) (answer : Answer) :
    s.opened answer = .error .network := by
  rw [SendsLegalId, Bool.not_eq_true] at h
  rw [opened.eq_def, h]
  rfl

theorem sendsLegalId_iff_opened_eq (s : Stream) :
    s.SendsLegalId ↔ ∀ answer, s.opened answer = Stream.opened { s with decoder := {} } answer := by
  have hnone : Stream.SendsLegalId { s with decoder := {} } := rfl
  constructor
  · intro h answer
    rw [opened_eq h, opened_eq hnone]
  · intro h
    by_contra hillegal
    have hreply := h (.reply { status := 200 })
    rw [opened_of_illegal hillegal, opened_eq hnone] at hreply
    contradiction

theorem isLegal_request_of_illegal {s : Stream} (h : ¬s.SendsLegalId) (server : Server)
    (url : Url) : (s.request server url).isLegal = false := by
  rw [SendsLegalId, Bool.not_eq_true] at h
  cases hid : s.decoder.lastEventId with
  | none =>
      rw [hid] at h
      contradiction
  | some id =>
      have hvalue : isHeaderValue id = false := by
        rw [hid] at h
        exact h
      simp [request, Web.request, Web.Request.isLegal, hid, hvalue]

theorem run_of_illegal {s : Stream} (h : ¬s.SendsLegalId) (answers : List Answer) :
    (s.run answers).2.decoder = s.decoder ∧
      ∀ report ∈ (s.run answers).1,
        ∃ retryIn, report = .disconnected Web.FetchError.network.message retryIn := by
  induction answers using List.reverseRecOn with
  | nil => exact ⟨rfl, by simp [run]⟩
  | append_singleton answers answer ih =>
      obtain ⟨hdecoder, hreports⟩ := ih
      have hnext : ¬(s.run answers).2.SendsLegalId := by
        rw [SendsLegalId, hdecoder]
        exact h
      rw [run_concat, attempt, opened_of_illegal hnext]
      refine ⟨hdecoder, ?_⟩
      intro report hreport
      rcases List.mem_append.mp hreport with hearlier | hlast
      · exact hreports report hearlier
      · exact ⟨_, List.mem_singleton.mp hlast⟩

/--
Whatever is read, the stored id is the last one of a closed block.  It is a legal header
value, and makes no difference to what comes of an answer, exactly if it has no control
character but tabs.  With any other one no request is legal, and every attempt fails.
-/
theorem stored_id_of_inputs (inputs : List Input) (s : Stream) (server : Server) (url : Url) :
    let t : Stream := { s with decoder := ({} : Decoder).takeAll inputs }
    let plain := ∀ id ∈ lastClosedId inputs, ∀ c ∈ id.toList, isHeaderChar c = true
    t.decoder.lastEventId = lastClosedId inputs ∧
      (plain ↔ t.decoder.lastEventId.all isHeaderValue = true) ∧
      (plain ↔ ∀ answer, t.opened answer = Stream.opened { s with decoder := {} } answer) ∧
      (¬plain → (t.request server url).isLegal = false ∧
        ∀ answers, (t.run answers).2.decoder = t.decoder ∧
          ∀ report ∈ (t.run answers).1,
            ∃ retryIn, report = .disconnected "Request failed:" retryIn) := by
  intro t plain
  have hid : t.decoder.lastEventId = lastClosedId inputs := Decoder.lastEventId_takeAll inputs
  have hplain : plain ↔ t.SendsLegalId := by
    simp only [plain, SendsLegalId, hid, ← Web.isHeaderValue_iff, Option.all_eq_true]
    rfl
  refine ⟨hid, hplain, hplain.trans t.sendsLegalId_iff_opened_eq, ?_⟩
  intro hnot
  have hillegal := mt hplain.mpr hnot
  exact ⟨isLegal_request_of_illegal hillegal server url, run_of_illegal hillegal⟩

/-- One control character in an id, and the server is not asked again. -/
theorem stored_id_with_control_character :
    let body := "id: a\x01\n\n".toUTF8.toList
    let answers := [.reply { status := 200, body := { pieces := [body] } },
      .reply { status := 200 }, .reply { status := 200 }]
    (({} : Decoder).takeAll [.piece body, .reset]).lastEventId = some "a\x01" ∧
      isHeaderValue "a\x01" = false ∧
      ∃ s, start? .timeline {} = some s ∧
        (s.run answers).1.map LiveEvent.timeless = [.connected,
          .disconnected "stream closed by server" 0, .disconnected "Request failed:" 0,
          .disconnected "Request failed:" 0] := by
  refine ⟨by decide +kernel, by decide +kernel, _, rfl, ?_⟩
  decide +kernel

end Live.Stream

end FeedReader
