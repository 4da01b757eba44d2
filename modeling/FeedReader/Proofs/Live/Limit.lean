import FeedReader.Proofs.Live.Delays
import Mathlib.Data.List.Infix

/-!
# The limit of delays

Delays double up to a limit, but a delay that the server asks for is taken as it is.  So all
delays are within the limit just where those that are asked for are, each time a body ends.
-/

namespace FeedReader.Live.Stream

open EventStream (wishes)
open Web (Answer Body)

variable {backoff : Backoff} {s : Stream}

theorem exists_disconnected_of_prefix (h : s.Paced backoff [] []) {answers : List Answer}
    {bodies : List Body} (hbodies : bodies <+: s.received answers) (hne : bodies ≠ []) :
    ∃ reason, .disconnected reason ((heard bodies).getLast?.getD backoff.initial) ∈
      (s.run answers).1 := by
  induction answers using List.reverseRecOn with
  | nil => exact absurd (List.prefix_nil.mp hbodies) hne
  | append_singleton answers answer ih =>
      have hearlier : bodies <+: s.received answers →
          ∃ reason, .disconnected reason ((heard bodies).getLast?.getD backoff.initial) ∈
            (s.run (answers ++ [answer])).1 := by
        intro hbefore
        obtain ⟨reason, hmem⟩ := ih hbefore
        rw [run_concat]
        exact ⟨reason, List.mem_append_left _ hmem⟩
      rw [received_concat] at hbodies
      cases hopened : (s.run answers).2.opened answer with
      | error fault =>
          rw [hopened] at hbodies
          exact hearlier (by simpa [Except.toOption] using hbodies)
      | ok body =>
          rw [hopened] at hbodies
          rcases List.prefix_concat_iff.mp hbodies with rfl | hbefore
          · obtain ⟨front, reason, -, hopen, hattempt, -⟩ :=
              (paced_of_run h answers).1.attempt answer
            rw [hopen body hopened, hopened] at hattempt
            rw [run_concat, hattempt]
            exact ⟨reason, List.mem_append_right _ List.mem_concat_self⟩
          · exact hearlier hbefore

/--
The limit bounds all delays just where it bounds those that are asked for: each time a body
ends, the last one so far.
-/
theorem retryIn_le_max_iff (resource : Resource) (backoff : Backoff) (answers : List Answer)
    (hlive : resource.isLive) (hinitial : backoff.initial ≤ backoff.max) :
    ∃ s, start? resource backoff = some s ∧
      ((∀ reason retryIn, .disconnected reason retryIn ∈ (s.run answers).1 →
          retryIn ≤ backoff.max) ↔
        ∀ bodies, bodies <+: s.received answers →
          ∀ wish ∈ (heard bodies).getLast?, wish ≤ backoff.max) := by
  obtain ⟨s, hs, hpaced⟩ := start?_paced hlive backoff
  refine ⟨s, hs, ?_, ?_⟩
  · intro hbounded bodies hbodies wish hwish
    have hne : bodies ≠ [] := by
      rintro rfl
      cases hwish
    obtain ⟨reason, hmem⟩ := exists_disconnected_of_prefix hpaced hbodies hne
    rw [Option.mem_def.mp hwish, Option.getD_some] at hmem
    exact hbounded reason wish hmem
  · intro hwishes reason retryIn hmem
    obtain ⟨before, after, hsplit⟩ := List.append_of_mem hmem
    have hdue := due_of_run hpaced answers [] hsplit
    rw [hdue, List.append_nil]
    apply Backoff.delay_le
    · have hbase := hwishes _ (s.received_take_prefix answers (before.countP LiveEvent.isEnd + 1))
      cases hlast : (heard (s.received (answers.take _))).getLast? with
      | none => exact hinitial
      | some wish => exact hbase wish hlast
    · exact Nat.le_refl _

theorem retryIn_le_max_of_patient :
    ∃ s, start? .timeline ⟨10, 40⟩ = some s ∧
      (∀ reason retryIn, .disconnected reason retryIn ∈ (s.run patient).1 → retryIn ≤ 40) ∧
        (s.received patient).map (fun body => wishes body.pieces) = [[25], [100, 30]] := by
  have hle : (10 : Nat) ≤ 40 := by decide
  obtain ⟨s, hs, hiff⟩ := retryIn_le_max_iff .timeline ⟨10, 40⟩ patient rfl hle
  have hwishes : ∀ bodies ∈ (s.received patient).inits,
      ∀ wish ∈ (heard bodies).getLast?, wish ≤ 40 := by
    cases hs
    decide +kernel
  refine ⟨s, hs, hiff.mpr ?_, ?_⟩
  · intro bodies hbodies
    exact hwishes bodies ((List.mem_inits _ _).mpr hbodies)
  · cases hs
    decide +kernel

/-- A delay that the server asks for is reported, however long it is. -/
theorem retryIn_of_long_wish :
    let answer : Answer := .reply { status := 200, body := {
      pieces := ["retry: 100\n\n".toUTF8.toList] } }
    ∃ s, start? .timeline ⟨10, 40⟩ = some s ∧
      (s.run [answer]).1 = [.connected, .disconnected "stream closed by server" 100] := by
  intro answer
  refine ⟨_, rfl, ?_⟩
  decide +kernel

end FeedReader.Live.Stream
