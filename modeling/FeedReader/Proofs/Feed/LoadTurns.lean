import FeedReader.Proofs.Feed.Coherence
import Mathlib.Algebra.Group.Nat.Defs

/-!
# One load at a time

A request stays with whoever fetches for it, who may keep copies and answer
late, twice or never.  The guard of a completion reads two flags and compares a
counter; the history says what it decides: requests take turns, and each one
takes effect at most once.
-/

namespace FeedReader.Feed

variable {α κ ρ ε : Type} [Keyed α κ] [DecidableEq κ]

/-! ## What a history says of requests -/

def Event.issued? (event : Event α κ ε) : Option LoadRequest :=
  match event.op, event.answer with
  | .beginLoad, .asked request => request
  | _, _ => none

/-- The request of a completion that took effect, be it a page or a failure. -/
def Event.settled? (event : Event α κ ε) : Option LoadRequest :=
  match event.op, event.answer with
  | .finishLoad _ _, .finished .discarded => none
  | .finishLoad request _, .finished _ => some request
  | _, _ => none

def issued (history : List (Event α κ ε)) : List LoadRequest :=
  history.filterMap Event.issued?

def settled (history : List (Event α κ ε)) : List LoadRequest :=
  history.filterMap Event.settled?

omit [Keyed α κ] [DecidableEq κ] in
theorem issued_append (first second : List (Event α κ ε)) :
    issued (first ++ second) = issued first ++ issued second :=
  List.filterMap_append

omit [Keyed α κ] [DecidableEq κ] in
theorem settled_append (first second : List (Event α κ ε)) :
    settled (first ++ second) = settled first ++ settled second :=
  List.filterMap_append

omit [Keyed α κ] [DecidableEq κ] in
theorem issued_append_singleton (history : List (Event α κ ε)) (event : Event α κ ε) :
    issued (history ++ [event]) = issued history ++ event.issued?.toList := by
  rw [issued_append]
  cases h : event.issued? <;> simp [issued, h]

omit [Keyed α κ] [DecidableEq κ] in
theorem settled_append_singleton (history : List (Event α κ ε)) (event : Event α κ ε) :
    settled (history ++ [event]) = settled history ++ event.settled?.toList := by
  rw [settled_append]
  cases h : event.settled? <;> simp [settled, h]

omit [Keyed α κ] [DecidableEq κ] in
theorem issued_append_of_none (history : List (Event α κ ε)) {event : Event α κ ε}
    (h : event.issued? = none) : issued (history ++ [event]) = issued history := by
  rw [issued_append_singleton, h, Option.toList_none, List.append_nil]

omit [Keyed α κ] [DecidableEq κ] in
theorem settled_append_of_none (history : List (Event α κ ε)) {event : Event α κ ε}
    (h : event.settled? = none) : settled (history ++ [event]) = settled history := by
  rw [settled_append_singleton, h, Option.toList_none, List.append_nil]

omit [Keyed α κ] [DecidableEq κ] in
theorem Event.settled?_of_issued? {event : Event α κ ε} (h : event.issued?.isSome = true) :
    event.settled? = none := by
  obtain ⟨op, answer⟩ := event
  cases op with
  | beginLoad => rfl
  | _ => contradiction

def HandsBack (f : Feed α κ ρ ε) (ops : List (Op α κ ε)) : Prop :=
  ∀ before request result after, ops = before ++ .finishLoad request result :: after →
    request ∈ issued (f.history before)

theorem handsBack_nil (f : Feed α κ ρ ε) : f.HandsBack [] := by
  intro before request result after hsplit
  simp at hsplit

theorem HandsBack.of_append {f : Feed α κ ρ ε} {first second : List (Op α κ ε)}
    (h : f.HandsBack (first ++ second)) : f.HandsBack first := by
  intro before request result after hsplit
  refine h before request result (after ++ second) ?_
  rw [hsplit, List.append_assoc, List.cons_append]

theorem handsBack_append_singleton (f : Feed α κ ρ ε) (ops : List (Op α κ ε)) (op : Op α κ ε) :
    f.HandsBack (ops ++ [op]) ↔ f.HandsBack ops ∧
      ∀ request result, op = .finishLoad request result → request ∈ issued (f.history ops) := by
  constructor
  · intro h
    refine ⟨h.of_append, ?_⟩
    rintro request result rfl
    exact h ops request result [] rfl
  · rintro ⟨h, hlast⟩ before request result after hsplit
    rcases append_singleton_eq_split_iff.mp hsplit with ⟨-, rfl, hop⟩ | ⟨middle, -, hops⟩
    · exact hlast request result hop
    · exact h before request result middle hops

/-! ## The turn a run is at -/

/-- The counter numbers the requests, and all but one under way are settled in their order. -/
structure InTurn (history : List (Event α κ ε)) (f : Feed α κ ρ ε) : Prop where
  counted : f.generation.toNat = (issued history).length
  numbered : ∀ i request, (issued history)[i]? = some request →
    request.generation.toNat = i + 1
  idle : f.tornDown = false → f.listing.loading = false → issued history = settled history
  loading : f.tornDown = false → f.listing.loading = true →
    ∃ request, issued history = settled history ++ [request]

omit [Keyed α κ] [DecidableEq κ] in
theorem InTurn.generation_inj {history : List (Event α κ ε)} {f : Feed α κ ρ ε}
    (h : InTurn history f) {i j : Nat} {r s : LoadRequest} (hr : (issued history)[i]? = some r)
    (hs : (issued history)[j]? = some s) (hgen : r.generation = s.generation) : i = j := by
  have hi := h.numbered i r hr
  have hj := h.numbered j s hs
  rw [hgen] at hi
  omega

omit [Keyed α κ] [DecidableEq κ] in
theorem InTurn.generation_eq_iff {history : List (Event α κ ε)} {f : Feed α κ ρ ε}
    (h : InTurn history f) {request : LoadRequest} (hissued : request ∈ issued history) :
    request.generation = f.generation ↔ (issued history).getLast? = some request := by
  obtain ⟨i, hi⟩ := List.mem_iff_getElem?.mp hissued
  have hnumber := h.numbered i request hi
  have hcounted := h.counted
  rw [List.getLast?_eq_getElem?]
  constructor
  · intro hgen
    rw [hgen] at hnumber
    have hlast : (issued history).length - 1 = i := by omega
    rw [hlast]
    exact hi
  · intro hlast
    have hlt := (List.getElem?_eq_some_iff.mp hi).1
    have hnumber := h.numbered _ request hlast
    apply UInt64.toNat.inj
    omega

omit [Keyed α κ] [DecidableEq κ] in
theorem InTurn.not_mem_settled {history : List (Event α κ ε)} {f : Feed α κ ρ ε}
    (h : InTurn history f) {request : LoadRequest}
    (hsplit : issued history = settled history ++ [request]) : request ∉ settled history := by
  intro hmem
  obtain ⟨i, hi⟩ := List.mem_iff_getElem?.mp hmem
  have hlt := (List.getElem?_eq_some_iff.mp hi).1
  have hfirst : (issued history)[i]? = some request := by
    rw [hsplit, List.getElem?_append_left hlt]
    exact hi
  have hlast : (issued history)[(settled history).length]? = some request := by
    rw [hsplit]
    simp
  have hsame := h.generation_inj hfirst hlast rfl
  omega

omit [Keyed α κ] [DecidableEq κ] in
theorem InTurn.isAwaited_iff {history : List (Event α κ ε)} {f : Feed α κ ρ ε}
    (h : InTurn history f) {request : LoadRequest} (hissued : request ∈ issued history) :
    f.isAwaited request = true ↔
      (issued history).getLast? = some request ∧ request ∉ settled history ∧
        f.tornDown = false := by
  have hgen := h.generation_eq_iff hissued
  rw [isAwaited_eq_true_iff]
  constructor
  · rintro ⟨hlive, hloading, hsame⟩
    obtain ⟨last, hsplit⟩ := h.loading hlive hloading
    have hlast := hgen.mp hsame
    rw [hsplit, List.getLast?_concat, Option.some.injEq] at hlast
    subst hlast
    exact ⟨by rw [hsplit, List.getLast?_concat], h.not_mem_settled hsplit, hlive⟩
  · rintro ⟨hlast, hopen, hlive⟩
    refine ⟨hlive, ?_, hgen.mpr hlast⟩
    by_contra hidle
    rw [Bool.not_eq_true] at hidle
    rw [h.idle hlive hidle] at hissued
    exact hopen hissued

/-! ## One step -/

omit [Keyed α κ] [DecidableEq κ] in
theorem live_of_ready {f : Feed α κ ρ ε} (h : f.ready = true) :
    f.tornDown = false ∧ f.listing.loading = false := by
  simp only [ready, Bool.and_eq_true, Bool.not_eq_true'] at h
  exact h.1.1

theorem Step.ready_of_issued? {f g : Feed α κ ρ ε} {op : Op α κ ε} {answer : Answer α}
    (hstep : Step f op answer g) (h : (Event.issued? ⟨op, answer⟩).isSome = true) :
    f.ready = true := by
  cases hstep with
  | began hready => exact hready
  | _ => contradiction

theorem finishLoad_discarded (f : Feed α κ ρ ε) (request : LoadRequest)
    (result : Except ε (Page α)) :
    ((f.finishLoad request result).1 ≠ .discarded ↔ f.isAwaited request = true) ∧
      ((f.finishLoad request result).1 = .discarded → (f.finishLoad request result).2 = f) := by
  cases hawaited : f.isAwaited request with
  | false => simp [finishLoad, hawaited]
  | true =>
      cases result with
      | error error => simp [finishLoad, hawaited]
      | ok page => simp [finishLoad, hawaited]

omit [Keyed α κ] [DecidableEq κ] in
theorem InTurn.pass {history : List (Event α κ ε)} {f g : Feed α κ ρ ε} (h : InTurn history f)
    {event : Event α κ ε} (hissued : event.issued? = none) (hsettled : event.settled? = none)
    (hgen : g.generation = f.generation) (hloading : g.listing.loading = f.listing.loading)
    (hdown : g.tornDown = f.tornDown) : InTurn (history ++ [event]) g := by
  have hsame := issued_append_of_none history hissued
  have hsame' := settled_append_of_none history hsettled
  constructor
  · rw [hsame, hgen]
    exact h.counted
  · rw [hsame]
    exact h.numbered
  · rw [hsame, hsame', hdown, hloading]
    exact h.idle
  · rw [hsame, hsame', hdown, hloading]
    exact h.loading

omit [Keyed α κ] [DecidableEq κ] in
theorem InTurn.finish {history : List (Event α κ ε)} {f g : Feed α κ ρ ε} (h : InTurn history f)
    {request : LoadRequest} (hrequest : request ∈ issued history)
    (hawaited : f.isAwaited request = true) {event : Event α κ ε}
    (hissued : event.issued? = none) (hsettled : event.settled? = some request)
    (hgen : g.generation = f.generation) (hloading : g.listing.loading = false) :
    InTurn (history ++ [event]) g := by
  have hsame := issued_append_of_none history hissued
  have hdone : issued history = settled (history ++ [event]) := by
    obtain ⟨hlast, hopen, hlive⟩ := (h.isAwaited_iff hrequest).mp hawaited
    have hbusy : f.listing.loading = true := by
      by_contra hidle
      rw [Bool.not_eq_true] at hidle
      exact hopen (h.idle hlive hidle ▸ hrequest)
    obtain ⟨last, hsplit⟩ := h.loading hlive hbusy
    rw [hsplit, List.getLast?_concat, Option.some.injEq] at hlast
    rw [hsplit, settled_append_singleton, hsettled, hlast, Option.toList_some]
  constructor
  · rw [hsame, hgen]
    exact h.counted
  · rw [hsame]
    exact h.numbered
  · intro _ _
    rw [hsame, hdone]
  · intro _ hbusy
    rw [hloading] at hbusy
    contradiction

theorem InTurn.step {history : List (Event α κ ε)} {f g : Feed α κ ρ ε} (h : InTurn history f)
    (hfaithful : f.Faithful) {op : Op α κ ε} {answer : Answer α} (hstep : Step f op answer g)
    (hback : ∀ request result, op = .finishLoad request result → request ∈ issued history)
    (hfew : (issued (history ++ [⟨op, answer⟩])).length < 2 ^ 64) :
    InTurn (history ++ [⟨op, answer⟩]) g := by
  cases hstep with
  | refused | late | merged | waited | nothingToShow | kept | dropped | stuck | moved
  | releasedAtOnce | attached | alreadyDown | discarded => exact h.pass rfl rfl rfl rfl rfl
  | showed _ _ hfold =>
      have hrefilled := (hfaithful.renewed hfold).refilled
      exact h.pass rfl rfl hrefilled.generation hrefilled.loading hrefilled.tornDown
  | failed hawaited => exact h.finish (hback _ _ rfl) hawaited rfl rfl rfl rfl
  | loaded hawaited hfold =>
      have hrefilled := (hfaithful.aged hfold).refilled
      exact h.finish (hback _ _ rfl) hawaited rfl rfl hrefilled.generation hrefilled.loading
  | began hready =>
      have hidle := live_of_ready hready
      have hnext : issued (history ++ [⟨.beginLoad, .asked (some f.nextRequest)⟩]) =
          issued history ++ [f.nextRequest] := issued_append_singleton _ _
      have hsame : settled (history ++ [⟨.beginLoad, .asked (some f.nextRequest)⟩]) =
          settled history := settled_append_of_none history rfl
      have hcount : (f.generation + 1).toNat = (issued history).length + 1 := by
        rw [hnext, List.length_append, List.length_singleton] at hfew
        rw [UInt64.toNat_add, h.counted]
        exact Nat.mod_eq_of_lt hfew
      rw [← h.idle hidle.1 hidle.2] at hsame
      constructor
      · rw [hnext, List.length_append, List.length_singleton]
        exact hcount
      · intro i request hi
        rw [hnext, List.getElem?_append] at hi
        split at hi
        · exact h.numbered i request hi
        · next hlen =>
            rw [List.getElem?_singleton] at hi
            split at hi
            · next hzero =>
                obtain rfl := Option.some.inj hi
                exact hcount.trans (by omega)
            · contradiction
      · intro _ hloading
        contradiction
      · intro _ _
        exact ⟨f.nextRequest, by rw [hnext, hsame]⟩
  | wentDown hlive =>
      constructor
      · rw [issued_append_of_none history rfl]
        exact h.counted
      · rw [issued_append_of_none history rfl]
        exact h.numbered
      · intro hdown
        contradiction
      · intro hdown
        contradiction

/-! ## Whole runs -/

theorem inTurn_of_start {seed : Seed α} {options : FeedOptions α ρ} {f : Feed α κ ρ ε}
    (h : Feed.start seed options = .ok f) : InTurn ([] : List (Event α κ ε)) f := by
  constructor
  · exact congrArg UInt64.toNat (started h).generation
  · intro i request hi
    contradiction
  · intro _ _
    rfl
  · intro _ hloading
    exact absurd ((started h).idle.symm.trans hloading) Bool.false_ne_true

variable {seed : Seed α} {options : FeedOptions α ρ} {f : Feed α κ ρ ε}

theorem inTurn_of_run (hstart : Feed.start seed options = .ok f) (ops : List (Op α κ ε))
    (hback : f.HandsBack ops) (hfew : (issued (f.history ops)).length < 2 ^ 64) :
    InTurn (f.history ops) (f.after ops) := by
  induction ops using List.reverseRecOn with
  | nil => exact inTurn_of_start hstart
  | append_singleton ops op ih =>
      obtain ⟨hearlier, hlast⟩ := (handsBack_append_singleton f ops op).mp hback
      have hreachable := (Reachable.start hstart).after ops
      rw [history_append_singleton] at hfew ⊢
      rw [after_append_singleton]
      have hfewer : (issued (f.history ops)).length < 2 ^ 64 := by
        rw [issued_append_singleton, List.length_append] at hfew
        omega
      exact (ih hearlier hfewer).step hreachable.faithful (hreachable.step op) hlast hfew

theorem history_eq_append {f : Feed α κ ρ ε} {ops : List (Op α κ ε)}
    {first second : List (Event α κ ε)} (h : f.history ops = first ++ second) :
    ∃ ops₁ ops₂, ops = ops₁ ++ ops₂ ∧ f.history ops₁ = first ∧
      (f.after ops₁).history ops₂ = second := by
  induction first generalizing f ops with
  | nil => exact ⟨[], ops, rfl, rfl, h⟩
  | cons event first ih =>
      cases ops with
      | nil => contradiction
      | cons op ops =>
          rw [history_cons, List.cons_append, List.cons.injEq] at h
          obtain ⟨rfl, hrest⟩ := h
          obtain ⟨ops₁, ops₂, rfl, rfl, rfl⟩ := ih hrest
          exact ⟨op :: ops₁, ops₂, rfl, rfl, rfl⟩

theorem issued_eq_settled_of_issues (hstart : Feed.start seed options = .ok f)
    {ops : List (Op α κ ε)} (hback : f.HandsBack ops)
    (hfew : (issued (f.history ops)).length < 2 ^ 64) {before after : List (Event α κ ε)}
    {event : Event α κ ε} (hsplit : f.history ops = before ++ event :: after)
    (hissues : event.issued?.isSome = true) : issued before = settled before := by
  obtain ⟨ops₁, ops₂, rfl, rfl, hrest⟩ := history_eq_append hsplit
  have hfewer : (issued (f.history ops₁)).length < 2 ^ 64 := by
    rw [hsplit, issued_append, List.length_append] at hfew
    omega
  have hturn := inTurn_of_run hstart ops₁ hback.of_append hfewer
  cases ops₂ with
  | nil => contradiction
  | cons op ops₂ =>
      have hready := (((Reachable.start hstart).after ops₁).step op).ready_of_issued?
      rw [history_cons, List.cons.injEq] at hrest
      rw [hrest.1] at hready
      obtain ⟨hlive, hidle⟩ := live_of_ready (hready hissues)
      exact hturn.idle hlive hidle

/--
A completion takes effect only for the latest request, only once and only on a
live feed; any other leaves the feed, its log included, as it is.  Between two
requests those issued are settled, the first of them included.
-/
theorem one_load_at_a_time (hstart : Feed.start seed options = .ok f) (ops : List (Op α κ ε))
    (hback : f.HandsBack ops) (hfew : (issued (f.history ops)).length < 2 ^ 64) :
    (∀ request ∈ issued (f.history ops), ∀ result,
      (((f.after ops).finishLoad request result).1 ≠ .discarded ↔
        (issued (f.history ops)).getLast? = some request ∧
          request ∉ settled (f.history ops) ∧ (f.after ops).tornDown = false) ∧
      (((f.after ops).finishLoad request result).1 = .discarded →
        ((f.after ops).finishLoad request result).2 = f.after ops)) ∧
    ∀ before first middle second after request,
      f.history ops = before ++ first :: middle ++ second :: after →
      first.issued? = some request → second.issued?.isSome = true →
      settled middle = request :: issued middle := by
  refine ⟨?_, ?_⟩
  · intro request hrequest result
    have hturn := inTurn_of_run hstart ops hback hfew
    rw [← hturn.isAwaited_iff hrequest]
    exact finishLoad_discarded (f.after ops) request result
  · intro before first middle second after request hsplit hfirst hsecond
    have hlater := issued_eq_settled_of_issues hstart hback hfew hsplit hsecond
    rw [List.append_assoc, List.cons_append] at hsplit
    have hissues : first.issued?.isSome = true := by rw [hfirst, Option.isSome_some]
    have hearlier := issued_eq_settled_of_issues hstart hback hfew hsplit hissues
    rw [issued_append, settled_append, hearlier, List.append_cancel_left_eq, issued, settled,
      List.filterMap_cons_some hfirst,
      List.filterMap_cons_none (Event.settled?_of_issued? hissues)] at hlater
    exact hlater.symm

theorem second_load_answered_late :
    let seed := .page ⟨[⟨1, 0⟩, ⟨2, 0⟩], none, some "a"⟩
    let f := snapshotFeed seed .forward
    let ops := [.beginLoad, .finishLoad ⟨some "a", 2, 1⟩ (.error ()), .beginLoad]
    let g := f.after ops
    Feed.start seed (snapshotOptions .forward) = .ok f ∧ f.HandsBack ops ∧
      (issued (f.history ops)).length < 2 ^ 64 ∧
      (g.finishLoad ⟨some "a", 2, 1⟩ (.ok ⟨[⟨3, 0⟩], none, none⟩)).2 = g ∧
      (g.finishLoad ⟨some "a", 2, 2⟩ (.error ())).1 ≠ .discarded := by
  intro seed f ops g
  have hback : f.HandsBack ops := by
    have hbegun : f.HandsBack [.beginLoad] :=
      (handsBack_append_singleton f [] _).mpr ⟨handsBack_nil f, fun _ _ h => nomatch h⟩
    have hfailed : f.HandsBack [.beginLoad, .finishLoad ⟨some "a", 2, 1⟩ (.error ())] := by
      refine (handsBack_append_singleton f [.beginLoad] _).mpr ⟨hbegun, ?_⟩
      rintro request result ⟨⟩
      decide
    exact (handsBack_append_singleton f [_, _] _).mpr ⟨hfailed, fun _ _ h => nomatch h⟩
  have hfew : (issued (f.history ops)).length < 2 ^ 64 := by
    have htwo : (issued (f.history ops)).length = 2 := rfl
    omega
  have hturns := (one_load_at_a_time (start_snapshotFeed seed .forward) ops hback hfew).1
  refine ⟨rfl, hback, hfew, ?_, ?_⟩
  · exact (hturns ⟨some "a", 2, 1⟩ (by decide) _).2 (by decide)
  · exact (hturns ⟨some "a", 2, 2⟩ (by decide) _).1.mpr (by decide)

end FeedReader.Feed
