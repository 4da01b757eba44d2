import FeedReader.Web.Fetch

/-!
# What requests are answered

A network is a script of answers.  A legal request gets the next one, whatever it asks for, so
the answers to requests are known before they are made.  A request that is not legal is not
sent, and uses up no answer.
-/

namespace FeedReader.Web

variable {r : Request} {target : Url}

/-! ## Answers -/

namespace Answer

def settled : Answer → Except FetchError Reply
  | .reply found => .ok found
  | .late => .error .timeout
  | .dropped | .unreachable => .error .network

def redirect? : Answer → Option Url
  | .reply found => found.redirect?
  | .late | .dropped | .unreachable => none

/-- The server may answer otherwise if it is asked again. -/
def IsTemporary : Answer → Prop
  | .reply found => found.status = 429 ∨ 500 ≤ found.status ∧ found.status < 600
  | .late | .dropped | .unreachable => False

instance : DecidablePred IsTemporary
  | .reply found =>
      inferInstanceAs (Decidable (found.status = 429 ∨ 500 ≤ found.status ∧ found.status < 600))
  | .late | .dropped | .unreachable => inferInstanceAs (Decidable False)

def arrivals (r : Request) : Answer → List Request
  | .unreachable => []
  | .reply _ | .late | .dropped => [r]

theorem isTemporary_reply_iff (found : Reply) :
    IsTemporary (.reply found) ↔ found.isRetryable := by
  simp [IsTemporary, Reply.isRetryable, Reply.isBusy]

theorem exists_reply_of_isTemporary {answer : Answer} (h : answer.IsTemporary) :
    ∃ reply, answer = .reply reply ∧ reply.isRetryable := by
  cases answer with
  | reply found => exact ⟨found, rfl, (isTemporary_reply_iff found).mp h⟩
  | late => cases h
  | dropped => cases h
  | unreachable => cases h

theorem redirect?_eq_none {answer : Answer}
    (h : ∀ reply, answer = .reply reply →
      reply.status ∉ [301, 302, 303, 307, 308] ∨ reply.location = none) :
    answer.redirect? = none := by
  cases answer with
  | reply found =>
      rw [redirect?, Reply.redirect?]
      obtain hstatus | hlocation := h found rfl
      · rw [if_neg (by simpa using hstatus)]
      · rw [hlocation, ite_self]
  | late => rfl
  | dropped => rfl
  | unreachable => rfl

theorem arrivals_eq_singleton_iff (r : Request) (answer : Answer) :
    answer.arrivals r = [r] ↔ answer ≠ .unreachable := by
  cases answer <;> simp [arrivals]

theorem arrivals_eq_replicate (n : Nat) (r : Request) (answer : Answer) :
    List.replicate n r ++ answer.arrivals r =
      List.replicate (if answer = .unreachable then n else n + 1) r := by
  cases answer <;> simp [arrivals, List.replicate_succ']

end Answer

/-! ## Sending -/

namespace Network

/-- The answer to the request that is made after `index` others. -/
def answer (net : Network) (index : Nat) : Answer := net.answers[index]?.getD net.further

theorem send_eq (h : r.isLegal) (net : Network) :
    net.send r = (net.answer 0,
      { net with
        answers := net.answers.tail
        sent := net.sent ++ (net.answer 0).arrivals r }) := by
  have hrecord : ∀ (net : Network) answer,
      net.record r answer = { net with sent := net.sent ++ answer.arrivals r } := by
    intro net answer
    cases answer <;> simp [record, Answer.arrivals]
  rw [send, if_pos h]
  cases hanswers : net.answers with
  | nil => simp [answer, hanswers, hrecord]
  | cons first rest => simp [answer, hanswers, hrecord]

theorem send_of_illegal (h : r.isLegal = false) (net : Network) :
    net.send r = (.unreachable, net) := by
  rw [send, h]
  rfl

theorem answer_send (h : r.isLegal) (net : Network) (index : Nat) :
    (net.send r).2.answer index = net.answer (index + 1) := by
  rw [send_eq h]
  simp [answer, List.getElem?_tail]

theorem answer_pause (net : Network) (duration index : Nat) :
    (net.pause duration).answer index = net.answer index := rfl

end Network

/-! ## Redirected requests -/

theorem Request.isLegal_redirected (h : r.isLegal) (target : Url) :
    (r.redirected target).isLegal := by
  rw [isLegal, Bool.and_eq_true] at h ⊢
  refine ⟨?_, h.2⟩
  rw [redirected]
  dsimp only
  split
  · exact h.1
  · rfl

/-! ## Following redirects -/

section Follow

variable {left : Nat} {earlier : List Url} {net : Network}

theorem follow_of_illegal (h : r.isLegal = false) (left : Nat) (earlier : List Url)
    (net : Network) : follow left earlier r net = (.error .network, net) := by
  rw [follow.eq_def, Network.send_of_illegal h]

theorem follow_of_answered (h : r.isLegal) (hredirect : (net.answer 0).redirect? = none) :
    follow left earlier r net = ((net.answer 0).settled, (net.send r).2) := by
  rw [follow.eq_def, Network.send_eq h]
  cases hanswer : net.answer 0 with
  | reply reply =>
      rw [hanswer] at hredirect
      simp only [Answer.redirect?] at hredirect
      simp [hredirect, Answer.settled]
  | late => rfl
  | dropped => rfl
  | unreachable => rfl

theorem follow_of_redirect (h : r.isLegal) (hredirect : (net.answer 0).redirect? = some target) :
    follow left earlier r net =
      match left with
      | 0 => (.error .network, (net.send r).2)
      | left + 1 =>
          if target ∈ r.url :: earlier then (.error .network, (net.send r).2)
          else follow left (r.url :: earlier) (r.redirected target) (net.send r).2 := by
  cases hanswer : net.answer 0 with
  | reply reply =>
      rw [hanswer] at hredirect
      simp only [Answer.redirect?] at hredirect
      rw [follow.eq_def, Network.send_eq h, hanswer]
      cases left with
      | zero => simp [hredirect]
      | succ left => simp [hredirect]
  | late => simp [hanswer, Answer.redirect?] at hredirect
  | dropped => simp [hanswer, Answer.redirect?] at hredirect
  | unreachable => simp [hanswer, Answer.redirect?] at hredirect

end Follow

end FeedReader.Web
