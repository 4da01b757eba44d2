import FeedReader.Live.Stream
import FeedReader.Proofs.EventStream.Blocks

/-!
# What attempts report

A stream is opened again and again, and one decoder serves all attempts.  It is reset
before a body is read, so a body gives the same events as it would give alone.  What an
attempt reports then depends on its answer, and of the earlier answers only on whether
one of them brought a body.
-/

namespace FeedReader.Live

open EventStream (Decoder)
open Web (Answer Body FetchError)

/-! ## Answers -/

def body? : Answer → Option Body
  | .reply reply => if reply.isSuccess then some reply.body else none
  | .late | .dropped | .unreachable => none

def refusal : Answer → FetchError
  | .reply reply => .status reply.status
  | .late => .timeout
  | .dropped | .unreachable => .network

def bodies (answers : List Answer) : List Body := answers.filterMap body?

theorem bodies_concat (answers : List Answer) (answer : Answer) :
    bodies (answers ++ [answer]) = bodies answers ++ (body? answer).toList := by
  rw [bodies, List.filterMap_append, ← bodies]
  cases h : body? answer with
  | none => simp [h]
  | some body => simp [h]

def ending (body : Body) : String :=
  if body.broken then FetchError.network.message else "stream closed by server"

/-! ## Reports -/

def LiveEvent.timeless : LiveEvent → LiveEvent
  | .disconnected reason _ => .disconnected reason 0
  | report => report

theorem map_timeless_item (entries : List Entry) :
    (entries.map LiveEvent.item).map LiveEvent.timeless = entries.map .item := by
  rw [List.map_map]
  rfl

/-- The entries that a body holds, read by a decoder of its own. -/
def arrivals (kind : EntryKind) (body : Body) : List Entry :=
  (({} : Decoder).pushAll body.pieces).1.filterMap fun event =>
    (kind.decode event.data.toUTF8.toList).toOption

def greeting (earlier : List Answer) : LiveEvent :=
  if bodies earlier = [] then .connected else .reconnected

theorem timeless_greeting (earlier : List Answer) :
    (greeting earlier).timeless = greeting earlier := by
  rw [greeting]
  split
  · rfl
  · rfl

/-- What is reported of an answer that comes after others, but for delays. -/
def notices (kind : EntryKind) (earlier : List Answer) (answer : Answer) : List LiveEvent :=
  match body? answer with
  | none => [.disconnected (refusal answer).message 0]
  | some body =>
      greeting earlier :: (arrivals kind body).map .item ++ [.disconnected (ending body) 0]

def trace (kind : EntryKind) (answers : List Answer) : List LiveEvent :=
  (answers.mapIdx fun i answer => notices kind (answers.take i) answer).flatten

theorem trace_concat (kind : EntryKind) (answers : List Answer) (answer : Answer) :
    trace kind (answers ++ [answer]) = trace kind answers ++ notices kind answers answer := by
  have hearlier : (answers.mapIdx fun i a => notices kind ((answers ++ [answer]).take i) a) =
      answers.mapIdx fun i a => notices kind (answers.take i) a := by
    rw [List.mapIdx_eq_mapIdx_iff]
    intro i hi
    rw [List.take_append_of_le_length (Nat.le_of_lt hi)]
  rw [trace, List.mapIdx_concat, List.flatten_concat, hearlier, List.take_left, trace]

namespace Stream

/-! ## Receiving -/

theorem adoptRetry_eq (s : Stream) : ∃ base delay, s.adoptRetry = { s with base, delay } := by
  rw [adoptRetry]
  split
  · split
    · exact ⟨_, _, rfl⟩
    · exact ⟨s.base, s.delay, rfl⟩
  · exact ⟨s.base, s.delay, rfl⟩

theorem receiveAll_concat (s : Stream) (pieces : List (List UInt8)) (piece : List UInt8) :
    s.receiveAll (pieces ++ [piece]) =
      ((s.receiveAll pieces).1 ++ ((s.receiveAll pieces).2.receive piece).1,
        ((s.receiveAll pieces).2.receive piece).2) :=
  List.foldl_concat ..

theorem receiveAll_eq (s : Stream) (pieces : List (List UInt8)) :
    ∃ base delay, s.receiveAll pieces =
      ((entries s.kind (s.decoder.pushAll pieces).1).map .item,
        { s with decoder := (s.decoder.pushAll pieces).2, base, delay }) := by
  induction pieces using List.reverseRecOn with
  | nil => exact ⟨s.base, s.delay, rfl⟩
  | append_singleton pieces piece ih =>
      obtain ⟨base, delay, ih⟩ := ih
      rw [receiveAll_concat, ih, Decoder.pushAll_concat, receive]
      dsimp only
      obtain ⟨base', delay', hretry⟩ := adoptRetry_eq
        { s with decoder := ((s.decoder.pushAll pieces).2.push piece).2, base, delay }
      refine ⟨base', delay', ?_⟩
      rw [hretry, entries, entries, entries, List.filterMap_append, List.map_append]

theorem arrivals_eq (kind : EntryKind) (d : Decoder) (body : Body) :
    entries kind (d.reset.pushAll body.pieces).1 = arrivals kind body := by
  rw [arrivals, Decoder.pushAll_reset, Decoder.pushAll_new, entries]

/-! ## One attempt -/

def SendsLegalId (s : Stream) : Prop := s.decoder.lastEventId.all Web.isHeaderValue

instance (s : Stream) : Decidable s.SendsLegalId :=
  inferInstanceAs (Decidable (s.decoder.lastEventId.all Web.isHeaderValue = true))

theorem opened_eq {s : Stream} (hid : s.SendsLegalId) (answer : Answer) :
    s.opened answer =
      match body? answer with
      | some body => .ok body
      | none => .error (refusal answer) := by
  rw [SendsLegalId] at hid
  rw [opened.eq_def, hid]
  cases answer with
  | reply reply => by_cases hsuccess : reply.isSuccess <;> simp [body?, refusal, hsuccess]
  | late => rfl
  | dropped => rfl
  | unreachable => rfl

theorem attempt_of_refused {s : Stream} {answer : Answer} (hid : s.SendsLegalId)
    (h : body? answer = none) :
    s.attempt answer =
      ([.disconnected (refusal answer).message s.delay],
        { s with delay := min (s.delay * 2) s.maxDelay }) := by
  rw [attempt, opened_eq hid, h]
  rfl

theorem attempt_of_body {s : Stream} {answer : Answer} {body : Body} (hid : s.SendsLegalId)
    (h : body? answer = some body) :
    ∃ retryIn base delay, s.attempt answer =
      ((if s.connectedBefore then .reconnected else .connected) ::
          (arrivals s.kind body).map .item ++ [.disconnected (ending body) retryIn],
        { s with
          decoder := (s.decoder.reset.pushAll body.pieces).2
          connectedBefore := true
          base
          delay }) := by
  obtain ⟨base, delay, hreceived⟩ := receiveAll_eq s.connect.2 body.pieces
  rw [attempt, opened_eq hid, h]
  dsimp only
  rw [hreceived, connect]
  dsimp only
  rw [arrivals_eq]
  exact ⟨_, _, _, rfl⟩

/-! ## All attempts -/

/-- Whatever id an attempt sends is a legal header value. -/
def StoresLegalIds (s : Stream) (answers : List Answer) : Prop :=
  ∀ i < answers.length, (s.run (answers.take i)).2.SendsLegalId

instance (s : Stream) (answers : List Answer) : Decidable (s.StoresLegalIds answers) :=
  inferInstanceAs (Decidable (∀ i < answers.length, (s.run (answers.take i)).2.SendsLegalId))

theorem storesLegalIds_concat (s : Stream) (answers : List Answer) (answer : Answer) :
    s.StoresLegalIds (answers ++ [answer]) ↔
      s.StoresLegalIds answers ∧ (s.run answers).2.SendsLegalId := by
  rw [StoresLegalIds, List.length_append, List.length_singleton, Nat.forall_lt_succ_right,
    List.take_left]
  apply and_congr_left'
  apply forall₂_congr
  intro i hi
  rw [List.take_append_of_le_length (Nat.le_of_lt hi)]

theorem run_concat (s : Stream) (answers : List Answer) (answer : Answer) :
    s.run (answers ++ [answer]) =
      ((s.run answers).1 ++ ((s.run answers).2.attempt answer).1,
        ((s.run answers).2.attempt answer).2) :=
  List.foldl_concat ..

structure Follows (kind : EntryKind) (answers : List Answer) (s : Stream) : Prop where
  kind_eq : s.kind = kind
  connectedBefore_iff : s.connectedBefore ↔ bodies answers ≠ []

theorem Follows.greeting_eq {kind : EntryKind} {answers : List Answer} {s : Stream}
    (h : s.Follows kind answers) :
    (if s.connectedBefore then LiveEvent.reconnected else .connected) = greeting answers := by
  rw [greeting]
  by_cases hbodies : bodies answers = []
  · rw [if_pos hbodies, if_neg fun hs => h.connectedBefore_iff.mp hs hbodies]
  · rw [if_neg hbodies, if_pos (h.connectedBefore_iff.mpr hbodies)]

theorem Follows.attempt {kind : EntryKind} {answers : List Answer} {s : Stream}
    (h : s.Follows kind answers) (hid : s.SendsLegalId) (answer : Answer) :
    (s.attempt answer).1.map LiveEvent.timeless = notices kind answers answer ∧
      (s.attempt answer).2.Follows kind (answers ++ [answer]) := by
  cases hbody : body? answer with
  | none =>
      rw [attempt_of_refused hid hbody, notices, hbody]
      refine ⟨rfl, h.kind_eq, ?_⟩
      rw [bodies_concat, hbody, Option.toList_none, List.append_nil]
      exact h.connectedBefore_iff
  | some body =>
      obtain ⟨retryIn, base, delay, hattempt⟩ := attempt_of_body hid hbody
      rw [hattempt, h.greeting_eq, h.kind_eq, notices, hbody]
      refine ⟨?_, rfl, ?_⟩
      · rw [List.map_append, List.map_cons, timeless_greeting, map_timeless_item]
        rfl
      · simp [bodies_concat, hbody]

theorem follows_of_run {kind : EntryKind} {s : Stream} (h : s.Follows kind [])
    {answers : List Answer} (hids : s.StoresLegalIds answers) :
    (s.run answers).1.map LiveEvent.timeless = trace kind answers ∧
      (s.run answers).2.Follows kind answers := by
  induction answers using List.reverseRecOn with
  | nil => exact ⟨rfl, h⟩
  | append_singleton answers answer ih =>
      obtain ⟨hearlier, hid⟩ := (s.storesLegalIds_concat answers answer).mp hids
      obtain ⟨hreports, hfollows⟩ := ih hearlier
      obtain ⟨hnew, hafter⟩ := hfollows.attempt hid answer
      rw [run_concat, List.map_append, hreports, hnew, trace_concat]
      exact ⟨rfl, hafter⟩

theorem start?_of_isLive {resource : Resource} (hlive : resource.isLive) (backoff : Backoff) :
    ∃ s, start? resource backoff = some s ∧ s.Follows resource.kind [] ∧ s.decoder = {} := by
  rw [start?, if_pos hlive]
  exact ⟨_, rfl, ⟨rfl, by simp [bodies]⟩, rfl⟩

/--
The reports over any attempts are those of each attempt, one after the other.  Bodies may
end or break anywhere.
-/
theorem trace_of_run (resource : Resource) (backoff : Backoff) (answers : List Answer)
    (hlive : resource.isLive) :
    ∃ s, start? resource backoff = some s ∧
      (s.StoresLegalIds answers →
        (s.run answers).1.map LiveEvent.timeless = trace resource.kind answers) := by
  obtain ⟨s, hs, hfresh, -⟩ := start?_of_isLive hlive backoff
  exact ⟨s, hs, fun hids => (follows_of_run hfresh hids).1⟩

def interrupted : List Answer := [
  .unreachable,
  .reply { status := 200, body := {
    pieces := [
      "id: 7\ndata: \x7b\"id\":\"p\",\"createdAt\":\"1970-01-01T00:00:09Z\"\x7d\n".toUTF8.toList,
      "\ndata: \x7b\x7d\n\nid: 8\ndata: \x7b\"id\":".toUTF8.toList]
    broken := true } },
  .late,
  .reply { status := 503 },
  .reply { status := 200, body := {
    pieces := [
      "\"q\"\x7d\n\ndata: \x7b\"id\":\"r\",\"createdAt\":".toUTF8.toList,
      "\"1970-01-01T00:00:09Z\"\x7d\n\n".toUTF8.toList] } }]

theorem trace_of_interrupted :
    ∃ s, start? .timeline {} = some s ∧ s.StoresLegalIds interrupted ∧
      (s.run interrupted).1.map LiveEvent.timeless = [
        .disconnected "Request failed:" 0,
        .connected,
        .item (.post { id := "p", createdAt := { seconds := 9 } }),
        .disconnected "Request failed:" 0,
        .disconnected "Request timed out" 0,
        .disconnected "HTTP error: status 503" 0,
        .reconnected,
        .item (.post { id := "r", createdAt := { seconds := 9 } }),
        .disconnected "stream closed by server" 0] := by
  obtain ⟨s, hs, htrace⟩ := trace_of_run .timeline {} interrupted rfl
  have hids : s.StoresLegalIds interrupted := by
    cases hs
    decide +kernel
  refine ⟨s, hs, hids, ?_⟩
  rw [htrace hids]
  decide +kernel

end Stream

end FeedReader.Live
