import FeedReader.Proofs.Web.Retries
import Mathlib.Data.List.Basic
import Mathlib.Data.List.Chain

/-!
# How far redirects are followed

An attempt follows a script of answers along a chain of requests: as long as each answer is a
redirect to a URL that the chain has not asked for, and as long as no more of them are followed
than allowed.  What an attempt does is said for any number of redirects allowed, so that two
such numbers can be compared: they differ on the scripts that lead further than the smaller.
-/

namespace FeedReader.Web

variable {r : Request} {net : Network} {target : Url} {targets visited earlier : List Url}

/-! ## Requests one after the other -/

namespace Network

def asked (net : Network) (rs : List Request) : Network :=
  rs.foldl (fun net r => (net.send r).2) net

theorem answer_asked (net : Network) {rs : List Request} (h : ∀ r ∈ rs, r.isLegal)
    (index : Nat) : (net.asked rs).answer index = net.answer (rs.length + index) := by
  induction rs generalizing net with
  | nil => simp [asked]
  | cons r rs ih =>
      obtain ⟨hr, hrs⟩ := List.forall_mem_cons.mp h
      have hrest : ((net.send r).2.asked rs).answer index =
          (net.send r).2.answer (rs.length + index) := ih _ hrs
      rw [asked, List.foldl_cons, ← asked, hrest, answer_send hr, List.length_cons]
      congr 1
      omega

theorem sent_asked_concat (net : Network) {rs : List Request} (h : ∀ r ∈ rs, r.isLegal)
    (hr : r.isLegal) :
    (net.asked (rs ++ [r])).sent =
      (net.asked rs).sent ++ (net.answer rs.length).arrivals r := by
  have hlast : net.asked (rs ++ [r]) = ((net.asked rs).send r).2 := List.foldl_concat ..
  rw [hlast, send_eq hr, answer_asked net h, Nat.add_zero]

theorem length_sent_asked_le (net : Network) (rs : List Request) :
    (net.asked rs).sent.length ≤ net.sent.length + rs.length := by
  induction rs generalizing net with
  | nil => exact Nat.le_refl _
  | cons r rs ih =>
      have hrest := ih (net.send r).2
      have hfirst : (net.send r).2.sent.length ≤ net.sent.length + 1 := by
        cases hlegal : r.isLegal with
        | false =>
            rw [send_of_illegal hlegal]
            exact Nat.le_succ _
        | true =>
            rw [send_eq hlegal]
            cases net.answer 0 <;> simp [Answer.arrivals]
      rw [asked, List.foldl_cons, ← asked, List.length_cons]
      omega

end Network

/-! ## Chains -/

def chain (r : Request) (targets : List Url) : List Request :=
  targets.scanl Request.redirected r

theorem length_chain (r : Request) (targets : List Url) :
    (chain r targets).length = targets.length + 1 := List.length_scanl

theorem isLegal_chain (h : r.isLegal) (targets : List Url) :
    ∀ request ∈ chain r targets, request.isLegal := by
  induction targets generalizing r with
  | nil => exact List.forall_mem_singleton.mpr h
  | cons target targets ih =>
      rw [chain, List.scanl_cons, List.forall_mem_cons]
      exact ⟨h, ih (Request.isLegal_redirected h target)⟩

theorem asked_chain_cons (net : Network) (r : Request) (target : Url) (targets : List Url) :
    net.asked (chain r (target :: targets)) =
      (net.send r).2.asked (chain (r.redirected target) targets) := by
  rw [chain, List.scanl_cons]
  rfl

theorem exists_sent_concat (h : r.isLegal) (net : Network) (targets : List Url) (target : Url) :
    ∃ last, (net.asked (chain r (targets ++ [target]))).sent =
      (net.asked (chain r targets)).sent ++ (net.answer (targets.length + 1)).arrivals last := by
  have hchain : chain r (targets ++ [target]) =
      chain r targets ++ [(targets.foldl Request.redirected r).redirected target] := by
    simp [chain, List.scanl_append]
  have hall := isLegal_chain h (targets ++ [target])
  rw [hchain, List.forall_mem_append, List.forall_mem_singleton] at hall
  rw [hchain, net.sent_asked_concat hall.1 hall.2, length_chain]
  exact ⟨_, rfl⟩

/-- A script leads along `targets` if all of its first answers redirect to them, each to a URL
that is neither visited nor among those before it. -/
structure Leads (script : Nat → Answer) (visited targets : List Url) : Prop where
  redirects : ∀ i (h : i < targets.length), (script i).redirect? = some targets[i]
  nodup : targets.Nodup
  fresh : ∀ target ∈ targets, target ∉ visited

namespace Leads

variable {script : Nat → Answer}

theorem nil (script : Nat → Answer) (visited : List Url) : Leads script visited [] where
  redirects _ h := absurd h (Nat.not_lt_zero _)
  nodup := List.nodup_nil
  fresh := List.forall_mem_nil _

theorem cons (hfirst : (script 0).redirect? = some target) (hnew : target ∉ visited)
    (hrest : Leads (fun i => script (i + 1)) (target :: visited) targets) :
    Leads script visited (target :: targets) where
  redirects i h := by
    cases i with
    | zero => exact hfirst
    | succ i => exact hrest.redirects i (Nat.lt_of_succ_lt_succ h)
  nodup := List.nodup_cons.mpr
    ⟨fun hmem => hrest.fresh target hmem List.mem_cons_self, hrest.nodup⟩
  fresh := List.forall_mem_cons.mpr
    ⟨hnew, fun t ht hvisited => hrest.fresh t ht (List.mem_cons_of_mem _ hvisited)⟩

theorem concat (h : Leads script visited targets)
    (hnext : (script targets.length).redirect? = some target)
    (hnew : target ∉ targets ∧ target ∉ visited) :
    Leads script visited (targets ++ [target]) where
  redirects i hi := by
    rw [List.length_append, List.length_singleton] at hi
    rcases Nat.lt_or_eq_of_le (Nat.le_of_lt_succ hi) with hlt | rfl
    · rw [List.getElem_append_left hlt]
      exact h.redirects i hlt
    · rw [List.getElem_concat_length]
      exact hnext
      rfl
  nodup := List.nodup_append.mpr
    ⟨h.nodup, List.pairwise_singleton _ target, fun _ ht _ hlast heq =>
      hnew.1 (List.mem_singleton.mp hlast ▸ heq ▸ ht)⟩
  fresh := List.forall_mem_append.mpr ⟨h.fresh, List.forall_mem_singleton.mpr hnew.2⟩

theorem eq_take {others : List Url} (h : Leads script visited targets)
    (hothers : Leads script visited others) (hle : targets.length ≤ others.length) :
    targets = others.take targets.length := by
  apply List.ext_getElem
  · rw [List.length_take_of_le hle]
  · intro i hi _
    have hsame := (h.redirects i hi).symm.trans (hothers.redirects i (Nat.lt_of_lt_of_le hi hle))
    rw [List.getElem_take]
    exact Option.some.inj hsame

theorem not_mem_take (h : Leads script visited targets) {i : Nat} (hi : i < targets.length) :
    targets[i] ∉ targets.take i := by
  have hlater : targets[i] ∈ targets.drop i := by
    rw [List.drop_eq_getElem_cons hi]
    exact List.mem_cons_self
  exact fun hmem => List.disjoint_take_drop h.nodup (Nat.le_refl i) hmem hlater

end Leads

/-! ## One attempt -/

/-- What an attempt has to come to along `targets` where `hops` redirects are allowed.  The
answer after them is that of the attempt, or it is one redirect too many or one that goes back. -/
structure Obeys (hops : Nat) (earlier : List Url) (r : Request) (net : Network)
    (result : Except FetchError Reply × Network) (targets : List Url) : Prop where
  leads : Leads net.answer (r.url :: earlier) targets
  within : targets.length ≤ hops
  sent : result.2.sent = (net.asked (chain r targets)).sent
  answered : (net.answer targets.length).redirect? = none →
    result.1 = (net.answer targets.length).settled
  refused : ∀ target, (net.answer targets.length).redirect? = some target →
    (targets.length = hops ∨ target ∈ targets ∨ target ∈ r.url :: earlier) ∧
      result.1 = .error .network

section Steps

variable {hops : Nat} {result : Except FetchError Reply × Network}

theorem obeys_of_answered (hanswered : (net.answer 0).redirect? = none) (hops : Nat)
    (earlier : List Url) :
    Obeys hops earlier r net ((net.answer 0).settled, (net.send r).2) [] where
  leads := .nil _ _
  within := Nat.zero_le hops
  sent := rfl
  answered _ := rfl
  refused target htarget := by
    rw [List.length_nil, hanswered] at htarget
    cases htarget

theorem obeys_of_refused (hredirect : (net.answer 0).redirect? = some target)
    (hwhy : 0 = hops ∨ target ∈ r.url :: earlier) :
    Obeys hops earlier r net (.error .network, (net.send r).2) [] where
  leads := .nil _ _
  within := Nat.zero_le hops
  sent := rfl
  answered hnone := by
    rw [List.length_nil, hredirect] at hnone
    cases hnone
  refused other hother := by
    rw [List.length_nil, hredirect] at hother
    cases hother
    exact ⟨hwhy.imp_right .inr, rfl⟩

theorem Obeys.cons (h : r.isLegal) (hredirect : (net.answer 0).redirect? = some target)
    (hnew : target ∉ r.url :: earlier)
    (hrest : Obeys hops (r.url :: earlier) (r.redirected target) (net.send r).2 result targets) :
    Obeys (hops + 1) earlier r net result (target :: targets) := by
  have hshift : (net.send r).2.answer = fun i => net.answer (i + 1) :=
    funext fun i => Network.answer_send h net i
  obtain ⟨hleads, hwithin, hsent, hanswered, hrefused⟩ := hrest
  rw [hshift] at hleads hanswered hrefused
  refine ⟨.cons hredirect hnew hleads, Nat.succ_le_succ hwithin, ?_, hanswered, ?_⟩
  · rw [hsent, asked_chain_cons]
  · intro other hother
    obtain ⟨hwhy, hresult⟩ := hrefused other hother
    refine ⟨?_, hresult⟩
    rcases hwhy with hlimit | hmem | hmem
    · exact .inl (congrArg Nat.succ hlimit)
    · exact .inr (.inl (List.mem_cons_of_mem _ hmem))
    · rcases List.mem_cons.mp hmem with htarget | hvisited
      · exact .inr (.inl (List.mem_cons.mpr (.inl htarget)))
      · exact .inr (.inr hvisited)

end Steps

theorem follow_obeys (h : r.isLegal) (left : Nat) (earlier : List Url) (net : Network) :
    ∃ targets, Obeys left earlier r net (follow left earlier r net) targets := by
  induction left generalizing earlier r net with
  | zero =>
      cases hredirect : (net.answer 0).redirect? with
      | none =>
          rw [follow_of_answered h hredirect]
          exact ⟨[], obeys_of_answered hredirect 0 earlier⟩
      | some target =>
          rw [follow_of_redirect h hredirect]
          exact ⟨[], obeys_of_refused hredirect (.inl rfl)⟩
  | succ left ih =>
      cases hredirect : (net.answer 0).redirect? with
      | none =>
          rw [follow_of_answered h hredirect]
          exact ⟨[], obeys_of_answered hredirect (left + 1) earlier⟩
      | some target =>
          rw [follow_of_redirect h hredirect]
          dsimp only
          split
          · next hback => exact ⟨[], obeys_of_refused hredirect (.inr hback)⟩
          · next hnew =>
              obtain ⟨targets, hrest⟩ :=
                ih (Request.isLegal_redirected h target) (r.url :: earlier) (net.send r).2
              exact ⟨target :: targets, hrest.cons h hredirect hnew⟩

/-! ## One redirect more -/

/-- The script leads over so many redirects to ever new URLs, and what the last of them leads to
is asked for and not out of reach. -/
def LeadsOver (hops : Nat) (r : Request) (net : Network) : Prop :=
  ∃ targets, Leads net.answer [r.url] targets ∧ targets.length = hops ∧
    net.answer hops ≠ .unreachable

namespace Obeys

variable {hops : Nat} {result : Except FetchError Reply × Network} {others : List Url}

theorem length_eq (h : Obeys hops [] r net result targets)
    (hothers : Leads net.answer [r.url] others) (hlt : targets.length < others.length) :
    targets.length = hops := by
  have htake := h.leads.eq_take hothers (Nat.le_of_lt hlt)
  have hnext := hothers.redirects targets.length hlt
  obtain ⟨hlimit | hmem | hmem, -⟩ := h.refused _ hnext
  · exact hlimit
  · have htaken : others[targets.length] ∈ others.take targets.length :=
      (congrArg (others[targets.length] ∈ ·) htake).mp hmem
    exact absurd htaken (hothers.not_mem_take hlt)
  · exact absurd hmem (hothers.fresh _ (List.getElem_mem hlt))

theorem succ (h : Obeys hops earlier r net result targets)
    (hend : ∀ target, (net.answer targets.length).redirect? = some target →
      target ∈ targets ∨ target ∈ r.url :: earlier) :
    Obeys (hops + 1) earlier r net result targets where
  leads := h.leads
  within := Nat.le_succ_of_le h.within
  sent := h.sent
  answered := h.answered
  refused target htarget := ⟨.inr (hend target htarget), (h.refused target htarget).2⟩

theorem concat (hr : r.isLegal) (h : Obeys hops earlier r net result targets)
    (hlength : targets.length = hops)
    (hredirect : (net.answer targets.length).redirect? = some target)
    (hnew : target ∉ targets ∧ target ∉ r.url :: earlier)
    (hnobody : net.answer (hops + 1) = .unreachable) :
    Obeys (hops + 1) earlier r net result (targets ++ [target]) := by
  have hlonger : (targets ++ [target]).length = hops + 1 := by
    rw [List.length_append, hlength, List.length_singleton]
  obtain ⟨last, hsent⟩ := exists_sent_concat hr net targets target
  rw [hlength, hnobody, Answer.arrivals, List.append_nil] at hsent
  refine ⟨h.leads.concat hredirect hnew, Nat.le_of_eq hlonger, ?_, ?_, ?_⟩
  · rw [h.sent, hsent]
  · rw [hlonger, hnobody, (h.refused target hredirect).2]
    intro _
    rfl
  · intro other hother
    rw [hlonger, hnobody] at hother
    cases hother

theorem not_leadsOver (hr : r.isLegal) (h : Obeys hops [] r net result targets)
    (hothers : Obeys (hops + 1) [] r net result others) : ¬LeadsOver (hops + 1) r net := by
  rintro ⟨way, hway, hlength, hreached⟩
  have hshort : targets.length = hops :=
    h.length_eq hway (by rw [hlength]; exact Nat.lt_succ_of_le h.within)
  have hlong : others.length = hops + 1 := by
    by_contra hne
    have hwithin := hothers.within
    exact hne (hothers.length_eq hway (by omega))
  rcases List.eq_nil_or_concat' others with rfl | ⟨front, target, rfl⟩
  · cases hlong
  · rw [List.length_append, List.length_singleton, Nat.succ_inj] at hlong
    have hfront : targets = front := by
      have htake := h.leads.eq_take hothers.leads (by rw [List.length_append]; omega)
      rwa [hshort, ← hlong, List.take_left] at htake
    obtain ⟨last, hsent⟩ := exists_sent_concat hr net front target
    rw [hlong, (Answer.arrivals_eq_singleton_iff _ _).mpr hreached, ← hothers.sent, ← hfront,
      ← h.sent] at hsent
    exact absurd hsent (by simp)

theorem obeys_succ_iff (hr : r.isLegal) (h : Obeys hops [] r net result targets) :
    (∃ targets, Obeys (hops + 1) [] r net result targets) ↔ ¬LeadsOver (hops + 1) r net := by
  refine ⟨fun ⟨_, hothers⟩ => h.not_leadsOver hr hothers, fun hnot => ?_⟩
  by_cases hend : ∀ target, (net.answer targets.length).redirect? = some target →
      target ∈ targets ∨ target ∈ [r.url]
  · exact ⟨targets, h.succ hend⟩
  · push Not at hend
    obtain ⟨target, hredirect, hnew⟩ := hend
    have hlength : targets.length = hops :=
      (h.refused target hredirect).1.resolve_right (not_or.mpr hnew)
    have hnobody : net.answer (hops + 1) = .unreachable := by
      by_contra hreached
      refine hnot ⟨targets ++ [target], h.leads.concat hredirect hnew, ?_, hreached⟩
      rw [List.length_append, hlength, List.length_singleton]
    exact ⟨targets ++ [target], h.concat hr hlength hredirect hnew hnobody⟩

end Obeys

/-! ## A whole fetch -/

/-- After a reply that says to ask again, and a pause, comes the next attempt. -/
def Retried (r : Request) (before after : Network) : Prop :=
  AsksAgain (attempt r before).1 ∧ ∃ pause, after = (attempt r before).2.pause pause

theorem exists_attempts (r : Request) (left pause : Nat) (net : Network) :
    ∃ earlier last, (earlier ++ [last]).head? = some net ∧
      (earlier ++ [last]).IsChain (Retried r) ∧
      earlier.length ≤ left ∧ (AsksAgain (attempt r last).1 → earlier.length = left) ∧
      retrying left pause r net = (verdict (attempt r last).1, (attempt r last).2) := by
  induction left generalizing pause net with
  | zero =>
      exact ⟨[], net, rfl, List.isChain_singleton net, Nat.le_refl 0, fun _ => rfl,
        retrying_of_last (.inl rfl) pause⟩
  | succ left ih =>
      by_cases hagain : AsksAgain (attempt r net).1
      · obtain ⟨earlier, last, hhead, hchain, hlength, hfull, hlast⟩ :=
          ih (2 * pause) ((attempt r net).2.pause pause)
        refine ⟨net :: earlier, last, rfl, ?_, Nat.succ_le_succ hlength, ?_, ?_⟩
        · apply hchain.cons
          rw [hhead]
          rintro _ ⟨⟩
          exact ⟨hagain, pause, rfl⟩
        · exact fun h => congrArg Nat.succ (hfull h)
        · rw [retrying_of_asksAgain hagain, hlast]
      · exact ⟨[], net, rfl, List.isChain_singleton net, Nat.zero_le _,
          fun h => absurd h hagain, retrying_of_last (.inr hagain) pause⟩

theorem length_sent_attempt_le (h : r.isLegal) (net : Network) :
    (attempt r net).2.sent.length ≤ net.sent.length + 3 := by
  obtain ⟨targets, hobeys⟩ := follow_obeys h (maxChain - 1) [] net
  have hsent := net.length_sent_asked_le (chain r targets)
  have hwithin : targets.length ≤ 2 := hobeys.within
  rw [← hobeys.sent, length_chain] at hsent
  rw [attempt]
  omega

theorem length_sent_retrying_le (h : r.isLegal) (left pause : Nat) (net : Network) :
    (retrying left pause r net).2.sent.length ≤ net.sent.length + 3 * (left + 1) := by
  have hfirst := length_sent_attempt_le h net
  induction left generalizing pause net with
  | zero =>
      rw [retrying_of_last (.inl rfl)]
      exact hfirst
  | succ left ih =>
      by_cases hagain : AsksAgain (attempt r net).1
      · have hrest := ih (2 * pause) ((attempt r net).2.pause pause)
          (length_sent_attempt_le h _)
        have hpause : ((attempt r net).2.pause pause).sent = (attempt r net).2.sent := rfl
        rw [hpause] at hrest
        rw [retrying_of_asksAgain hagain]
        omega
      · rw [retrying_of_last (.inr hagain)]
        dsimp only
        omega

/--
A fetch is made of at most four attempts, each on the network that the one before it has left,
and each along a new chain from the same request.  An attempt follows redirects to new URLs,
but only two of them; it comes to what it would where three are followed just if the script
does not lead over three.  A redirect that is not followed ends the fetch.
-/
theorem redirects_followed_iff (server : Server) (backoff : Nat) (resource : Resource)
    (query : PageQuery) (net : Network) {url : Url}
    (hurl : server.endpoint resource (some query) = .ok url)
    (hlegal : (request server url []).isLegal) :
    let r := request server url []
    let fetched := fetchPage server backoff resource query net
    (∃ earlier last, (earlier ++ [last]).head? = some net ∧
      (earlier ++ [last]).IsChain (Retried r) ∧
      earlier.length ≤ 3 ∧ (AsksAgain (attempt r last).1 → earlier.length = 3) ∧
      fetched = ((verdict (attempt r last).1).bind fun reply => decodeBody resource reply.body,
        (attempt r last).2)) ∧
    (∀ start : Network,
      (∃ targets, Obeys 2 [] r start (attempt r start) targets) ∧
      ((∃ targets, Obeys 3 [] r start (attempt r start) targets) ↔ ¬LeadsOver 3 r start) ∧
      (attempt r start).2.sent.length ≤ start.sent.length + 3) ∧
    fetched.2.sent.length ≤ net.sent.length + 12 := by
  refine ⟨?_, ?_, ?_⟩
  · obtain ⟨earlier, last, hhead, hchain, hlength, hfull, hlast⟩ :=
      exists_attempts (request server url []) maxRetries backoff net
    refine ⟨earlier, last, hhead, hchain, hlength, hfull, ?_⟩
    rw [fetchPage_eq hurl, hlast]
  · intro start
    obtain ⟨targets, hobeys⟩ := follow_obeys hlegal 2 [] start
    exact ⟨⟨targets, hobeys⟩, hobeys.obeys_succ_iff hlegal,
      length_sent_attempt_le hlegal start⟩
  · rw [fetchPage_eq hurl]
    exact length_sent_retrying_le hlegal maxRetries backoff net

def redirectTo (path : String) : Answer :=
  .reply { status := 302, location := some { keeper.base with path := path.toList } }

def detour : Network where
  answers := [redirectTo "/a", redirectTo "/b", .reply { status := 503 }, redirectTo "/c",
    .reply { status := 200, body := { pieces := ["\x7b\"items\":[]\x7d".toUTF8.toList] } }]

theorem redirects_followed_of_detour :
    ∃ url, keeper.endpoint .timeline (some (.older none 2)) = .ok url ∧
      (request keeper url []).isLegal ∧
      (∃ targets, Obeys 3 [] (request keeper url []) detour
        (attempt (request keeper url []) detour) targets) ∧
      (fetchPage keeper 1000 .timeline (.older none 2) detour).2.sent.length ≤ 12 := by
  obtain ⟨url, hurl⟩ : ∃ url, keeper.endpoint .timeline (some (.older none 2)) = .ok url :=
    ⟨_, rfl⟩
  have hvalue : isHeaderValue ("Bearer " ++ "k") = true := by decide +kernel
  have hlegal : (request keeper url []).isLegal := by
    rw [Request.isLegal, Bool.and_eq_true]
    exact ⟨hvalue, rfl⟩
  have hnot : ¬LeadsOver 3 (request keeper url []) detour := by
    rintro ⟨targets, hleads, hlength, -⟩
    have hthird := hleads.redirects 2 (by omega)
    cases hthird
  obtain ⟨-, heach, hall⟩ :=
    redirects_followed_iff keeper 1000 .timeline (.older none 2) detour hurl hlegal
  exact ⟨url, hurl, hlegal, (heach detour).2.1.mpr hnot, hall⟩

def wandering : Network where
  answers := [redirectTo "/a", redirectTo "/b", redirectTo "/c",
    .reply { status := 200, body := { pieces := ["\x7b\"items\":[]\x7d".toUTF8.toList] } }]

theorem third_redirect_refused :
    let fetched := fetchPage keeper 1000 .timeline (.older none 2) wandering
    fetched.1 = .error .network ∧
      fetched.2.sent.map (·.url.text) =
        ["http://[::1]/api/timeline?last=2", "http://[::1]/a", "http://[::1]/b"] := by
  decide +kernel

end FeedReader.Web
