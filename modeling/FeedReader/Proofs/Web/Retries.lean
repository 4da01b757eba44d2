import FeedReader.Proofs.Web.Answers
import FeedReader.Proofs.Web.Bodies
import FeedReader.Proofs.Web.HeaderValues
import Mathlib.Tactic.IntervalCases

/-!
# Attempts and retries

A fetch is made of attempts.  Each one follows redirects from the same request, whatever the
attempt before it has met, and only a reply that says to ask again leads to another one.
-/

namespace FeedReader.Web

variable {r : Request} {net : Network}

/-! ## One attempt -/

def attempt (r : Request) (net : Network) : Except FetchError Reply × Network :=
  follow (maxChain - 1) [] r net

def verdict : Except FetchError Reply → Except FetchError Reply
  | .error fault => .error fault
  | .ok reply =>
      if reply.isRetryable then
        .error (if reply.isBusy then .rateLimited maxRetries else .status reply.status)
      else if reply.isSuccess then .ok reply
      else .error (.status reply.status)

def AsksAgain (outcome : Except FetchError Reply) : Prop :=
  ∃ reply, outcome = .ok reply ∧ reply.isRetryable

theorem asksAgain_settled_iff (answer : Answer) :
    AsksAgain answer.settled ↔ answer.IsTemporary := by
  cases answer with
  | reply reply => simp [AsksAgain, Answer.settled, Answer.isTemporary_reply_iff]
  | late => simp [AsksAgain, Answer.settled, Answer.IsTemporary]
  | dropped => simp [AsksAgain, Answer.settled, Answer.IsTemporary]
  | unreachable => simp [AsksAgain, Answer.settled, Answer.IsTemporary]

/-! ## All attempts -/

theorem retrying_of_asksAgain (h : AsksAgain (attempt r net).1) (left pause : Nat) :
    retrying (left + 1) pause r net =
      retrying left (2 * pause) r ((attempt r net).2.pause pause) := by
  obtain ⟨reply, hreply, hretry⟩ := h
  have hattempt : follow (maxChain - 1) [] r net = (.ok reply, (attempt r net).2) :=
    Prod.ext hreply rfl
  rw [retrying, hattempt]
  exact if_pos hretry

theorem retrying_of_last {left : Nat} (h : left = 0 ∨ ¬AsksAgain (attempt r net).1)
    (pause : Nat) :
    retrying left pause r net = (verdict (attempt r net).1, (attempt r net).2) := by
  rw [retrying.eq_def, ← attempt]
  cases hattempt : attempt r net with
  | mk outcome after =>
      cases outcome with
      | error fault => rfl
      | ok reply =>
          rw [hattempt] at h
          simp only [verdict]
          split
          · next hretry =>
              cases h with
              | inl hleft => rw [hleft]
              | inr hnot => exact absurd ⟨reply, rfl, hretry⟩ hnot
          · split <;> rfl

/-! ## Scripts without redirects -/

theorem attempt_of_direct (h : r.isLegal) (hdirect : (net.answer 0).redirect? = none) :
    attempt r net = ((net.answer 0).settled, (net.send r).2) :=
  follow_of_answered h hdirect

/-- The network after `n` retries: one request after the other, with pauses in between. -/
def Network.retried (net : Network) (r : Request) (pause n : Nat) : Network :=
  { net with
    answers := net.answers.drop (n + 1)
    sent := net.sent ++ List.replicate n r ++ (net.answer n).arrivals r
    pauses := net.pauses ++ (List.range n).map fun i => 2 ^ i * pause }

theorem retried_zero (h : r.isLegal) (net : Network) (pause : Nat) :
    net.retried r pause 0 = (net.send r).2 := by
  simp [Network.retried, Network.send_eq h]

theorem retried_succ (h : r.isLegal) {net : Network} (hretry : (net.answer 0).IsTemporary)
    (pause n : Nat) :
    net.retried r pause (n + 1) =
      ((net.send r).2.pause pause).retried r (2 * pause) n := by
  obtain ⟨reply, hreply, -⟩ := Answer.exists_reply_of_isTemporary hretry
  have hanswer : ((net.send r).2.pause pause).answer n = net.answer (n + 1) := by
    rw [Network.answer_pause, Network.answer_send h]
  have hpauses : (List.range n).map (fun i => 2 ^ (i + 1) * pause) =
      (List.range n).map fun i => 2 ^ i * (2 * pause) := by
    apply List.map_congr_left
    intro i _
    rw [Nat.pow_succ, Nat.mul_assoc]
  rw [Network.retried, Network.retried, hanswer]
  simp [Network.send_eq h, Network.pause, hreply, Answer.arrivals, List.replicate_succ,
    List.range_succ_eq_map, hpauses, Function.comp_def]

theorem retrying_of_direct (h : r.isLegal) (hdirect : ∀ i, (net.answer i).redirect? = none)
    {left n : Nat} (hn : n ≤ left) (hretry : ∀ i < n, (net.answer i).IsTemporary)
    (hlast : n = left ∨ ¬(net.answer n).IsTemporary) (pause : Nat) :
    retrying left pause r net =
      (verdict (net.answer n).settled, net.retried r pause n) := by
  induction n generalizing net left pause with
  | zero =>
      have hattempt := attempt_of_direct h (hdirect 0)
      have hlast : left = 0 ∨ ¬AsksAgain (attempt r net).1 := by
        rw [hattempt, asksAgain_settled_iff]
        exact hlast.imp_left Eq.symm
      rw [retrying_of_last hlast, hattempt, retried_zero h]
  | succ n ih =>
      have hattempt := attempt_of_direct h (hdirect 0)
      have hagain : AsksAgain (attempt r net).1 := by
        rw [hattempt, asksAgain_settled_iff]
        exact hretry 0 (Nat.zero_lt_succ n)
      cases left with
      | zero => omega
      | succ left =>
          have hanswer : ∀ i, ((net.send r).2.pause pause).answer i = net.answer (i + 1) := by
            intro i
            rw [Network.answer_pause, Network.answer_send h]
          have hlater : retrying left (2 * pause) r ((net.send r).2.pause pause) =
              (verdict (net.answer (n + 1)).settled,
                ((net.send r).2.pause pause).retried r (2 * pause) n) := by
            rw [← hanswer]
            apply ih
            · intro i
              rw [hanswer]
              exact hdirect (i + 1)
            · exact Nat.le_of_succ_le_succ hn
            · intro i hi
              rw [hanswer]
              exact hretry (i + 1) (Nat.succ_lt_succ hi)
            · rw [hanswer]
              exact hlast.imp_left Nat.succ_inj.mp
          rw [retrying_of_asksAgain hagain, hattempt]
          dsimp only
          rw [hlater, retried_succ h (hretry 0 (Nat.zero_lt_succ n))]

/-! ## Pages -/

theorem fetchPage_eq {server : Server} {resource : Resource} {query : PageQuery} {url : Url}
    (hurl : server.endpoint resource (some query) = .ok url) (backoff : Nat) (net : Network) :
    fetchPage server backoff resource query net =
      let fetched := retrying maxRetries backoff (request server url []) net
      (fetched.1.bind fun reply => decodeBody resource reply.body, fetched.2) := by
  rw [fetchPage, hurl]
  dsimp only
  cases retrying maxRetries backoff (request server url []) net with
  | mk outcome after => cases outcome <;> rfl

theorem map_pauses {n : Nat} (h : n ≤ 3) (backoff : Nat) :
    (List.range n).map (fun i => 2 ^ i * backoff) = ([1, 2, 4].take n).map (backoff * ·) := by
  interval_cases n <;> simp [List.range_succ, Nat.mul_comm]

/-! ## What an answer comes to -/

/-- What a page comes to by a final answer: nothing of a body over 10 MiB or cut short is read. -/
def pageOf (kind : EntryKind) : Answer → Except FetchError (Page Entry)
  | .reply reply =>
      let bytes := reply.body.pieces.flatten
      if reply.status < 200 ∨ 300 ≤ reply.status then .error (.status reply.status)
      else if reply.body.declared.any (10485760 < ·) ∨ 10485760 < bytes.length then
        .error .tooLarge
      else if reply.body.broken then .error .network
      else (kind.decodePage bytes).mapError .undecodable
  | .late => .error .timeout
  | .dropped | .unreachable => .error .network

theorem decodeBody_eq (resource : Resource) (body : Body) :
    decodeBody resource body =
      if body.declared.any (10485760 < ·) ∨ 10485760 < body.pieces.flatten.length then
        .error .tooLarge
      else if body.broken then .error .network
      else (resource.kind.decodePage body.pieces.flatten).mapError .undecodable := by
  rw [decodeBody, show maxBody = 10485760 from rfl, Body.read_eq]
  by_cases hlarge : body.declared.any (10485760 < ·) ∨ 10485760 < body.pieces.flatten.length
  · rw [if_pos hlarge, if_pos hlarge]
    rfl
  · rw [if_neg hlarge, if_neg hlarge]
    split <;> rfl

theorem pageOf_eq {answer : Answer} (h : ¬answer.IsTemporary) (resource : Resource) :
    (verdict answer.settled).bind (fun reply => decodeBody resource reply.body) =
      pageOf resource.kind answer := by
  cases answer with
  | reply reply =>
      have hagain : reply.isRetryable = false :=
        Bool.eq_false_iff.mpr (mt (Answer.isTemporary_reply_iff reply).mpr h)
      simp only [Answer.settled, verdict, pageOf, hagain, Bool.false_eq_true, if_false]
      by_cases hstatus : reply.status < 200 ∨ 300 ≤ reply.status
      · rw [if_neg (by simp [Reply.isSuccess]; omega), if_pos hstatus]
        rfl
      · rw [if_pos (by simp [Reply.isSuccess]; omega), if_neg hstatus]
        exact decodeBody_eq resource reply.body
  | late => rfl
  | dropped => rfl
  | unreachable => rfl

/-! ## Fetching without redirects -/

theorem isLegal_request_iff (server : Server) (url : Url) :
    (request server url []).isLegal = true ↔
      ∀ token ∈ server.token, ∀ c ∈ token.toList, c = '\t' ∨ ' ' ≤ c ∧ c ≠ '\x7f' := by
  cases htoken : server.token with
  | none => simp [Request.isLegal, request, htoken]
  | some token =>
      simp only [Request.isLegal, request, htoken, Option.map_some, Option.all_some,
        List.all_nil, Bool.and_true, isHeaderValue_iff, String.toList_append,
        List.forall_mem_append]
      simp [isHeaderChar]

section Direct

variable {server : Server} {resource : Resource} {query : PageQuery} {url : Url}

theorem fetchPage_of_illegal (hurl : server.endpoint resource (some query) = .ok url)
    (hillegal : (request server url []).isLegal = false) (backoff : Nat) (net : Network) :
    fetchPage server backoff resource query net = (.error .network, net) := by
  have hattempt : attempt (request server url []) net = (.error .network, net) :=
    follow_of_illegal hillegal _ _ _
  have hlast : ¬AsksAgain (attempt (request server url []) net).1 := by
    rw [hattempt]
    simp [AsksAgain]
  rw [fetchPage_eq hurl, retrying_of_last (.inr hlast), hattempt]
  rfl

variable (hurl : server.endpoint resource (some query) = .ok url)
  (hlegal : (request server url []).isLegal) (hdirect : ∀ i, (net.answer i).redirect? = none)
include hurl hlegal hdirect

theorem fetchPage_of_final {n : Nat} (hn : n ≤ maxRetries)
    (hretry : ∀ i < n, (net.answer i).IsTemporary) (hfinal : ¬(net.answer n).IsTemporary)
    (backoff : Nat) :
    fetchPage server backoff resource query net =
      (pageOf resource.kind (net.answer n), net.retried (request server url []) backoff n) := by
  rw [fetchPage_eq hurl, retrying_of_direct hlegal hdirect hn hretry (.inr hfinal)]
  dsimp only
  rw [pageOf_eq hfinal]

theorem fetchPage_of_exhausted {reply : Reply}
    (hretry : ∀ i < 4, (net.answer i).IsTemporary) (hlast : net.answer 3 = .reply reply)
    (backoff : Nat) :
    fetchPage server backoff resource query net =
      (.error (if reply.status = 429 then .rateLimited 3 else .status reply.status),
        net.retried (request server url []) backoff 3) := by
  have hreply : reply.isRetryable = true := by
    have hfourth := hretry 3 (by decide)
    rwa [hlast, Answer.isTemporary_reply_iff] at hfourth
  rw [fetchPage_eq hurl, retrying_of_direct hlegal hdirect (Nat.le_refl maxRetries)
    (fun i hi => hretry i (Nat.lt_succ_of_lt hi)) (.inl rfl)]
  dsimp only
  rw [maxRetries, hlast, Answer.settled, verdict, if_pos hreply]
  simp [Reply.isBusy, Except.bind, maxRetries]

end Direct

/--
Where redirects do not come up, the first final answer decides what a fetch comes to, unless
four answers before it are temporary; the fourth of these decides then.  All requests are
alike.  A fetch whose request cannot be made or sent comes to that, and to no request.
-/
theorem fetchPage_of_direct (server : Server) (backoff : Nat) (resource : Resource)
    (query : PageQuery) (net : Network)
    (hdirect : ∀ i reply, net.answer i = .reply reply →
      reply.status ∉ [301, 302, 303, 307, 308] ∨ reply.location = none) :
    (∀ fault, server.endpoint resource (some query) = .error fault →
      fetchPage server backoff resource query net = (.error (.badUrl fault), net)) ∧
    ∀ url, server.endpoint resource (some query) = .ok url →
      let r : Request := { url, authorization := server.token.map ("Bearer " ++ ·) }
      let isSendable :=
        ∀ token ∈ server.token, ∀ c ∈ token.toList, c = '\t' ∨ ' ' ≤ c ∧ c ≠ '\x7f'
      (¬isSendable →
        fetchPage server backoff resource query net = (.error .network, net)) ∧
      (isSendable →
        (∀ n ≤ 3, (∀ i < n, (net.answer i).IsTemporary) → ¬(net.answer n).IsTemporary →
          fetchPage server backoff resource query net =
            (pageOf resource.kind (net.answer n),
              { net with
                answers := net.answers.drop (n + 1)
                sent := net.sent ++
                  List.replicate (if net.answer n = .unreachable then n else n + 1) r
                pauses := net.pauses ++ ([1, 2, 4].take n).map (backoff * ·) })) ∧
        ((∀ i < 4, (net.answer i).IsTemporary) →
          ∃ reply, net.answer 3 = .reply reply ∧
            fetchPage server backoff resource query net =
              (.error (if reply.status = 429 then .rateLimited 3 else .status reply.status),
                { net with
                  answers := net.answers.drop 4
                  sent := net.sent ++ List.replicate 4 r
                  pauses := net.pauses ++ [1, 2, 4].map (backoff * ·) }))) := by
  have hnone := fun i => Answer.redirect?_eq_none (hdirect i)
  refine ⟨?_, ?_⟩
  · intro fault hfault
    rw [fetchPage, hfault]
  · intro url hurl r isSendable
    have hsendable : (request server url []).isLegal = true ↔ isSendable :=
      isLegal_request_iff server url
    refine ⟨?_, ?_⟩
    · intro hnot
      exact fetchPage_of_illegal hurl (Bool.eq_false_iff.mpr (mt hsendable.mp hnot)) backoff net
    intro hyes
    have hlegal := hsendable.mpr hyes
    refine ⟨?_, ?_⟩
    · intro n hn hretry hfinal
      rw [fetchPage_of_final hurl hlegal hnone hn hretry hfinal, Network.retried, map_pauses hn,
        List.append_assoc, Answer.arrivals_eq_replicate]
      rfl
    · intro hretry
      obtain ⟨reply, hreply, -⟩ := Answer.exists_reply_of_isTemporary (hretry 3 (by decide))
      have harrived : (if net.answer 3 = .unreachable then 3 else 3 + 1) = 4 := by
        rw [hreply]
        rfl
      refine ⟨reply, hreply, ?_⟩
      rw [fetchPage_of_exhausted hurl hlegal hnone hretry hreply, Network.retried,
        map_pauses (Nat.le_refl 3), List.append_assoc, Answer.arrivals_eq_replicate, harrived]
      rfl

def keeper : Server where
  base := {
    scheme := "http".toList
    authority := some { host := some (.ipv6 [0, 0, 0, 0, 0, 0, 0, 1]) }
    path := "/".toList }
  token := some "k"

def recovering : Network where
  answers := [
    .reply { status := 429 },
    .reply { status := 503 },
    .reply { status := 200, body := {
      declared := some 79
      pieces := [
        "\x7b\"items\":[\x7b\"username\":\"ada\",\"i".toUTF8.toList,
        "d\":\"7\"\x7d,[\"8\",\"bob\"]],".toUTF8.toList,
        "\"endCursor\":\"8\"\x7d".toUTF8.toList] } }]

def overrun : Network where
  answers := [.reply { status := 500 }, .reply { status := 503 }]
  further := .reply { status := 429 }

theorem fetchPage_of_recovering :
    ∃ url, keeper.endpoint (.users none) (some (.older none 2)) = .ok url ∧
      (request keeper url []).authorization = some "Bearer k" ∧
      fetchPage keeper 1000 (.users none) (.older none 2) recovering =
        (.ok {
          items :=
            [.user { id := "7", username := "ada" }, .user { id := "8", username := "bob" }]
          endCursor := some "8" },
          { recovering with
            answers := []
            sent := List.replicate 3 (request keeper url [])
            pauses := [1000, 2000] }) ∧
      fetchPage keeper 1000 (.users none) (.older none 2) overrun =
        (.error (.rateLimited 3),
          { overrun with
            answers := []
            sent := List.replicate 4 (request keeper url [])
            pauses := [1000, 2000, 4000] }) := by
  have hdirect : ∀ net ∈ [recovering, overrun], ∀ i reply, net.answer i = .reply reply →
      reply.status ∉ [301, 302, 303, 307, 308] ∨ reply.location = none := by
    simp only [List.forall_mem_cons]
    refine ⟨?_, ?_, List.forall_mem_nil _⟩
    · intro i reply h
      match i with
      | 0 | 1 | 2 =>
          cases h
          exact .inr rfl
      | i + 3 => cases h
    · intro i reply h
      match i with
      | 0 | 1 | i + 2 =>
          cases h
          exact .inr rfl
  obtain ⟨url, hurl⟩ : ∃ url, keeper.endpoint (.users none) (some (.older none 2)) = .ok url :=
    ⟨_, rfl⟩
  have hsendable : ∀ token ∈ keeper.token, ∀ c ∈ token.toList, c = '\t' ∨ ' ' ≤ c ∧ c ≠ '\x7f' := by
    rintro _ ⟨⟩ c hc
    obtain rfl : c = 'k' := by simpa using hc
    exact .inr ⟨by decide, by decide⟩
  have hpage : pageOf .user (recovering.answer 2) = .ok {
      items := [.user { id := "7", username := "ada" }, .user { id := "8", username := "bob" }]
      endCursor := some "8" } := by
    decide +kernel
  have hfetch := fun net hnet =>
    ((fetchPage_of_direct keeper 1000 (.users none) (.older none 2) net (hdirect net hnet)).2
      url hurl).2 hsendable
  have hfinal := (hfetch recovering (by simp)).1 2 (by decide) (by decide) (by decide)
  obtain ⟨reply, hreply, hspent⟩ := (hfetch overrun (by simp)).2 (by decide)
  cases hreply
  refine ⟨url, hurl, rfl, ?_, hspent⟩
  exact hfinal.trans (by rw [show (Resource.users none).kind = .user from rfl, hpage]; rfl)

end FeedReader.Web
