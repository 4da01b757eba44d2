import FeedReader.Proofs.EventStream.Wishes
import FeedReader.Proofs.Live.Attempts
import FeedReader.Proofs.Splits
import Mathlib.Algebra.Group.Nat.Defs

/-!
# Delays between attempts

Which delay is reported when an attempt ends depends on two things only: the last delay that
the bodies received so far have asked for, and how many attempts have ended since the stream
was last open.  What a stream stores between attempts is computed from both.
-/

namespace FeedReader.Live

open EventStream
open Web (Answer Body)

/-- The delays that the lines of bodies ask for, as far as lines are left. -/
def heard (bodies : List Body) : List Nat :=
  bodies.flatMap fun body => retries (leftTexts body.pieces)

theorem getLast?_heard_concat (bodies : List Body) (body : Body) :
    (heard (bodies ++ [body])).getLast? =
      (retries (leftTexts body.pieces)).getLast?.or (heard bodies).getLast? := by
  rw [heard, List.flatMap_append, List.flatMap_singleton, List.getLast?_append, heard]

theorem heard_eq_flatMap_wishes {bodies : List Body}
    (h : ∀ body ∈ bodies, LeavesNoWish body.pieces) :
    heard bodies = bodies.flatMap fun body => wishes body.pieces :=
  List.flatMap_congr fun body hbody => (h body hbody).retries_leftTexts

theorem heard_eq_flatMap_retries {bodies : List Body}
    (h : ∀ body ∈ bodies, HasShortLines body.pieces.flatten) :
    heard bodies = bodies.flatMap fun body => retries (lineTexts body.pieces.flatten) := by
  have hwishes := fun body hbody => (h body hbody).keepsLines.wishes_eq
  rw [heard_eq_flatMap_wishes fun body hbody => (hwishes body hbody).1]
  exact List.flatMap_congr fun body hbody => (hwishes body hbody).2

theorem heard_lt {bodies : List Body} {wish : Nat} (h : wish ∈ heard bodies) :
    wish < UInt64.size := by
  obtain ⟨body, -, hwish⟩ := List.mem_flatMap.mp h
  exact retries_lt hwish

/-! ## Reports -/

def LiveEvent.isOpening : LiveEvent → Bool
  | .connected | .reconnected => true
  | .item _ | .disconnected _ _ => false

def LiveEvent.isEnd : LiveEvent → Bool
  | .disconnected _ _ => true
  | .connected | .item _ | .reconnected => false

theorem not_isEnd_of_isOpening {report : LiveEvent} (h : report.isOpening) : ¬report.isEnd := by
  cases report with
  | connected => exact nofun
  | item entry => exact nofun
  | disconnected reason retryIn => cases h
  | reconnected => exact nofun

/-- How many attempts have ended since the stream was last open. -/
def failures (reports : List LiveEvent) : Nat :=
  (reports.reverse.takeWhile (!·.isOpening)).countP LiveEvent.isEnd

theorem failures_concat (reports : List LiveEvent) (report : LiveEvent) :
    failures (reports ++ [report]) =
      if report.isOpening then 0
      else failures reports + if report.isEnd then 1 else 0 := by
  rw [failures, List.reverse_concat, List.takeWhile_cons]
  cases report.isOpening with
  | true => rfl
  | false => simp [failures, List.countP_cons]

theorem failures_append_items (reports : List LiveEvent) (items : List Entry) :
    failures (reports ++ items.map .item) = failures reports := by
  induction items using List.reverseRecOn with
  | nil => rw [List.map_nil, List.append_nil]
  | append_singleton items item ih =>
      rw [List.map_append, List.map_singleton, ← List.append_assoc, failures_concat, ih]
      rfl

/-! ## Doubling -/

/-- The delay after so many attempts have ended, where the first is `base`. -/
def Backoff.delay (backoff : Backoff) (base failed : Nat) : Nat :=
  if failed = 0 then base else min (base * 2 ^ failed) backoff.max

theorem Backoff.delay_succ (backoff : Backoff) (base failed : Nat) :
    backoff.delay base (failed + 1) = min (backoff.delay base failed * 2) backoff.max := by
  unfold delay
  cases failed with
  | zero => rfl
  | succ failed =>
      rw [if_neg (Nat.succ_ne_zero _), if_neg (Nat.succ_ne_zero _), pow_succ,
        ← Nat.mul_assoc]
      omega

theorem Backoff.delay_le {backoff : Backoff} {base limit : Nat} (hbase : base ≤ limit)
    (hmax : backoff.max ≤ limit) (failed : Nat) : backoff.delay base failed ≤ limit := by
  unfold delay
  split
  · exact hbase
  · omega

namespace Stream

/-! ## Bodies that are received -/

def received (s : Stream) (answers : List Answer) : List Body :=
  (answers.mapIdx fun i answer =>
    ((s.run (answers.take i)).2.opened answer).toOption).reduceOption

theorem received_concat (s : Stream) (answers : List Answer) (answer : Answer) :
    s.received (answers ++ [answer]) =
      s.received answers ++ ((s.run answers).2.opened answer).toOption.toList := by
  have hearlier : (answers.mapIdx fun i a =>
        ((s.run ((answers ++ [answer]).take i)).2.opened a).toOption) =
      answers.mapIdx fun i a => ((s.run (answers.take i)).2.opened a).toOption := by
    rw [List.mapIdx_eq_mapIdx_iff]
    intro i hi
    rw [List.take_append_of_le_length (Nat.le_of_lt hi)]
  rw [received, List.mapIdx_concat, List.reduceOption_append, List.reduceOption_singleton,
    hearlier, List.take_left, received]

theorem received_take_prefix (s : Stream) (answers : List Answer) (n : Nat) :
    s.received (answers.take n) <+: s.received answers := by
  induction answers using List.reverseRecOn with
  | nil => simp
  | append_singleton answers answer ih =>
      rcases Nat.lt_or_ge answers.length n with hn | hn
      · have hall : (answers ++ [answer]).length ≤ n := List.length_append.trans_le hn
        exact (List.take_of_length_le hall).symm ▸ List.prefix_rfl
      · rw [List.take_append_of_le_length hn, received_concat]
        exact ih.trans (List.prefix_append _ _)

/-! ## What is stored between attempts -/

/-- The delay that a stream reports next, after these bodies and these reports. -/
structure Paced (backoff : Backoff) (bodies : List Body) (reports : List LiveEvent)
    (s : Stream) : Prop where
  maxDelay_eq : s.maxDelay = backoff.max
  retry_eq : s.decoder.retry = (heard bodies).getLast?
  base_eq : s.base = s.decoder.retry.getD backoff.initial
  delay_eq : s.delay = backoff.delay s.base (failures reports)

variable {backoff : Backoff} {bodies : List Body} {reports : List LiveEvent} {s : Stream}

structure Settled (initial : Nat) (s : Stream) : Prop where
  base_eq : s.base = s.decoder.retry.getD initial
  delay_eq : s.delay = s.base

theorem Settled.receive {initial : Nat} (h : s.Settled initial) (piece : List UInt8) :
    (s.receive piece).2.Settled initial := by
  have hadopted : (s.receive piece).2 =
      adoptRetry { s with decoder := (s.decoder.push piece).2 } := rfl
  rw [hadopted, adoptRetry]
  cases hretry : (s.decoder.push piece).2.retry with
  | none =>
      have hbefore : s.decoder.retry = none := by
        by_contra hsome
        have hafter := Decoder.isSome_retry_push (Option.isSome_iff_ne_none.mpr hsome) piece
        exact absurd hafter (by simp [hretry])
      refine ⟨?_, h.delay_eq⟩
      dsimp only
      rw [hretry, h.base_eq, hbefore]
  | some wanted =>
      dsimp only
      split
      · exact ⟨by simp [hretry], rfl⟩
      · next hsame => exact ⟨by simp [hretry, not_not.mp hsame], h.delay_eq⟩

theorem Settled.receiveAll {initial : Nat} (h : s.Settled initial)
    (pieces : List (List UInt8)) : (s.receiveAll pieces).2.Settled initial := by
  induction pieces using List.reverseRecOn with
  | nil => exact h
  | append_singleton pieces piece ih =>
      rw [receiveAll_concat]
      exact ih.receive piece

/-! ## One attempt -/

theorem Paced.disconnect (h : s.Paced backoff bodies reports) (reason : String) :
    (s.disconnect reason).1 = .disconnected reason
        (backoff.delay ((heard bodies).getLast?.getD backoff.initial) (failures reports)) ∧
      (s.disconnect reason).2.Paced backoff bodies (reports ++ [(s.disconnect reason).1]) := by
  have hdelay := h.delay_eq
  rw [h.base_eq, h.retry_eq] at hdelay
  refine ⟨by rw [Stream.disconnect, hdelay], h.maxDelay_eq, h.retry_eq, h.base_eq, ?_⟩
  rw [failures_concat]
  exact (congrArg₂ (fun d m => min (d * 2) m) h.delay_eq h.maxDelay_eq).trans
    (backoff.delay_succ _ _).symm

theorem isOpening_connect (s : Stream) : s.connect.1.isOpening := by
  rw [connect]
  cases s.connectedBefore with
  | true => rfl
  | false => rfl

theorem Paced.read (h : s.Paced backoff bodies reports) (body : Body) :
    let read := s.connect.2.receiveAll body.pieces
    failures (reports ++ s.connect.1 :: read.1) = 0 ∧
      (∀ report ∈ s.connect.1 :: read.1, ¬report.isEnd) ∧
      read.2.Paced backoff (bodies ++ [body]) (reports ++ s.connect.1 :: read.1) := by
  intro read
  obtain ⟨base, delay, hread⟩ : ∃ base delay, read = _ := receiveAll_eq s.connect.2 body.pieces
  have hopening := isOpening_connect s
  have hsettled : s.connect.2.Settled backoff.initial := ⟨h.base_eq, rfl⟩
  have hafter : read.2.Settled backoff.initial := hsettled.receiveAll body.pieces
  have hfailures : failures (reports ++ s.connect.1 :: read.1) = 0 := by
    rw [hread, List.append_cons, failures_append_items, failures_concat, if_pos hopening]
  have hretry : read.2.decoder.retry = (heard (bodies ++ [body])).getLast? := by
    rw [hread, getLast?_heard_concat, ← h.retry_eq]
    exact s.decoder.retry_pushAll_reset body.pieces
  refine ⟨hfailures, ?_, ?_, hretry, hafter.base_eq, ?_⟩
  · have hconnect : ¬s.connect.1.isEnd := not_isEnd_of_isOpening hopening
    have hitems : ∀ report ∈ read.1, ¬report.isEnd := by
      rw [hread]
      intro report hreport
      obtain ⟨entry, -, rfl⟩ := List.mem_map.mp hreport
      exact nofun
    exact List.forall_mem_cons.mpr ⟨hconnect, hitems⟩
  · rw [hread]
    exact h.maxDelay_eq
  · rw [hafter.delay_eq, hfailures]
    rfl

theorem attempt_of_opened {answer : Answer} {body : Body} (h : s.opened answer = .ok body) :
    let read := s.connect.2.receiveAll body.pieces
    s.attempt answer =
      (s.connect.1 :: read.1 ++ [(read.2.disconnect (ending body)).1],
        (read.2.disconnect (ending body)).2) := by
  rw [attempt, h]
  rfl

theorem Paced.attempt (h : s.Paced backoff bodies reports) (answer : Answer) :
    let now := bodies ++ (s.opened answer).toOption.toList
    ∃ front reason,
      (∀ report ∈ front, ¬report.isEnd) ∧
        (∀ body, s.opened answer = .ok body → failures (reports ++ front) = 0) ∧
        (s.attempt answer).1 = front ++ [.disconnected reason
          (backoff.delay ((heard now).getLast?.getD backoff.initial)
            (failures (reports ++ front)))] ∧
        (s.attempt answer).2.Paced backoff now (reports ++ (s.attempt answer).1) := by
  intro now
  cases hopened : s.opened answer with
  | error fault =>
      have hnow : now = bodies := by simp [now, hopened, Except.toOption]
      obtain ⟨hlast, hpaced⟩ := h.disconnect fault.message
      have hattempt : s.attempt answer =
          ([(s.disconnect fault.message).1], (s.disconnect fault.message).2) := by
        rw [Stream.attempt, hopened]
      refine ⟨[], fault.message, List.forall_mem_nil _, ?_, ?_, ?_⟩
      · intro body hbody
        cases hbody
      · rw [hattempt, hnow, hlast, List.append_nil, List.nil_append]
      · rw [hattempt, hnow]
        exact hpaced
  | ok body =>
      have hnow : now = bodies ++ [body] := by simp [now, hopened, Except.toOption]
      obtain ⟨hfailures, hfront, hread⟩ := h.read body
      obtain ⟨hlast, hpaced⟩ := hread.disconnect (ending body)
      have hattempt := attempt_of_opened hopened
      refine ⟨s.connect.1 :: (s.connect.2.receiveAll body.pieces).1, ending body, hfront,
        fun _ _ => hfailures, ?_, ?_⟩
      · rw [hattempt, hnow, hlast]
      · rw [hattempt, hnow, ← List.append_assoc]
        exact hpaced

/-! ## All attempts -/

theorem paced_of_run (h : s.Paced backoff [] []) (answers : List Answer) :
    (s.run answers).2.Paced backoff (s.received answers) (s.run answers).1 ∧
      (s.run answers).1.countP LiveEvent.isEnd = answers.length := by
  induction answers using List.reverseRecOn with
  | nil => exact ⟨h, rfl⟩
  | append_singleton answers answer ih =>
      obtain ⟨hpaced, hends⟩ := ih
      obtain ⟨front, reason, hfront, -, hattempt, hnext⟩ := hpaced.attempt answer
      rw [run_concat, received_concat]
      refine ⟨hnext, ?_⟩
      rw [hattempt, List.countP_append, List.countP_append, hends,
        List.countP_eq_zero.mpr hfront, List.length_append]
      rfl

def due (s : Stream) (backoff : Backoff) (answers : List Answer) (before : List LiveEvent) :
    Nat :=
  let bodies := s.received (answers.take (before.countP LiveEvent.isEnd + 1))
  backoff.delay ((heard bodies).getLast?.getD backoff.initial) (failures before)

theorem due_of_run (h : s.Paced backoff [] []) (earlier later : List Answer)
    {before after : List LiveEvent} {reason : String} {retryIn : Nat}
    (hsplit : (s.run earlier).1 = before ++ .disconnected reason retryIn :: after) :
    retryIn = s.due backoff (earlier ++ later) before := by
  induction earlier using List.reverseRecOn generalizing later after with
  | nil => simp [run] at hsplit
  | append_singleton earlier answer ih =>
      obtain ⟨hpaced, hends⟩ := paced_of_run h earlier
      obtain ⟨front, reason', hfront, -, hattempt, -⟩ := hpaced.attempt answer
      rw [run_concat, hattempt, ← List.append_assoc, append_singleton_eq_split_iff] at hsplit
      rcases hsplit with ⟨-, rfl, hlast⟩ | ⟨middle, -, hmiddle⟩
      · obtain ⟨-, rfl⟩ := LiveEvent.disconnected.inj hlast
        have htake : (earlier ++ [answer] ++ later).take (earlier.length + 1) =
            earlier ++ [answer] := List.take_left' (by simp)
        rw [due, List.countP_append, hends, List.countP_eq_zero.mpr hfront, Nat.add_zero, htake,
          received_concat]
      · have hmem : .disconnected reason retryIn ∉ front := fun hmem => hfront _ hmem rfl
        obtain ⟨rest, hrun⟩ := exists_split_of_not_mem hmem hmiddle
        rw [List.append_assoc]
        exact ih ([answer] ++ later) hrun

/-- Where no line is too long, every line that asks for a delay counts. -/
theorem retryIn_of_hasShortLines (h : s.Paced backoff [] []) {answers : List Answer}
    (hshort : ∀ body ∈ s.received answers, HasShortLines body.pieces.flatten)
    {before after : List LiveEvent} {reason : String} {retryIn : Nat}
    (hsplit : (s.run answers).1 = before ++ .disconnected reason retryIn :: after) :
    let bodies := s.received (answers.take (before.countP LiveEvent.isEnd + 1))
    let wanted := bodies.flatMap fun body => retries (lineTexts body.pieces.flatten)
    retryIn = backoff.delay (wanted.getLast?.getD backoff.initial) (failures before) := by
  intro bodies wanted
  have hbodies : ∀ body ∈ bodies, HasShortLines body.pieces.flatten := by
    intro body hbody
    exact hshort body ((s.received_take_prefix answers _).subset hbody)
  have hdue := due_of_run h answers [] hsplit
  rw [List.append_nil] at hdue
  rw [hdue, due, heard_eq_flatMap_retries hbodies]

theorem start?_paced {resource : Resource} (hlive : resource.isLive) (backoff : Backoff) :
    ∃ s, start? resource backoff = some s ∧ s.Paced backoff [] [] := by
  rw [start?, if_pos hlive]
  exact ⟨_, rfl, rfl, rfl, rfl, rfl⟩

theorem due_lt (s : Stream) (answers : List Answer) (before : List LiveEvent)
    (hinitial : backoff.initial < UInt64.size) (hmax : backoff.max < UInt64.size) :
    s.due backoff answers before < UInt64.size := by
  apply Nat.lt_of_le_pred (by decide)
  apply Backoff.delay_le
  · cases hwish : (heard (s.received (answers.take _))).getLast? with
    | none => exact Nat.le_pred_of_lt hinitial
    | some wish => exact Nat.le_pred_of_lt (heard_lt (List.mem_of_getLast? hwish))
  · exact Nat.le_pred_of_lt hmax

/--
The exact delays: an attempt that ends while the stream is open waits for the last delay that
any body has asked for, and each further attempt that fails waits twice as long, up to the limit.
No delay is larger than what the server can ask for or the limit.
-/
theorem delays_of_run (resource : Resource) (backoff : Backoff) (answers : List Answer)
    (hlive : resource.isLive) :
    ∃ s, start? resource backoff = some s ∧
      ∀ before reason retryIn after,
        (s.run answers).1 = before ++ .disconnected reason retryIn :: after →
          (backoff.initial < UInt64.size → backoff.max < UInt64.size → retryIn < UInt64.size) ∧
            let bodies := s.received (answers.take (before.countP LiveEvent.isEnd + 1))
            let base := (bodies.flatMap (wishes ·.pieces)).getLast?.getD backoff.initial
            let failed := failures before
            (∀ body ∈ bodies, LeavesNoWish body.pieces) →
              retryIn = if failed = 0 then base else min (base * 2 ^ failed) backoff.max := by
  obtain ⟨s, hs, hpaced⟩ := start?_paced hlive backoff
  refine ⟨s, hs, ?_⟩
  intro before reason retryIn after hsplit
  have hdue := due_of_run hpaced answers [] hsplit
  rw [List.append_nil] at hdue
  constructor
  · intro hinitial hmax
    rw [hdue]
    exact due_lt s answers before hinitial hmax
  · intro bodies base failed hleaves
    rw [hdue, due, heard_eq_flatMap_wishes hleaves]
    rfl

def patient : List Answer := [
  .unreachable,
  .late,
  .reply { status := 200, body := { pieces := ["retry: 2".toUTF8.toList, "5\n\n".toUTF8.toList] } },
  .reply { status := 503 },
  .reply { status := 200, body := {
    pieces := ["retry: 100\nret".toUTF8.toList, "ry: 30\n: wait\nretry: 90".toUTF8.toList]
    broken := true } }]

theorem delays_of_patient :
    ∃ s, start? .timeline ⟨10, 40⟩ = some s ∧
      (s.run patient).1 = [
        .disconnected "Request failed:" 10,
        .disconnected "Request timed out" 20,
        .connected,
        .disconnected "stream closed by server" 25,
        .disconnected "HTTP error: status 503" (min (25 * 2 ^ 1) 40),
        .reconnected,
        .disconnected "Request failed:" 30] := by
  obtain ⟨s, hs, hdelays⟩ := delays_of_run .timeline ⟨10, 40⟩ patient rfl
  have hsplit : ∃ retryIn, (s.run patient).1 = [
        .disconnected "Request failed:" 10,
        .disconnected "Request timed out" 20,
        .connected,
        .disconnected "stream closed by server" 25] ++
      .disconnected "HTTP error: status 503" retryIn :: [
        .reconnected,
        .disconnected "Request failed:" 30] := by
    cases hs
    exact ⟨40, by decide +kernel⟩
  obtain ⟨retryIn, hsplit⟩ := hsplit
  have hdelay := (hdelays _ _ _ _ hsplit).2 (by cases hs; decide +kernel)
  refine ⟨s, hs, ?_⟩
  rw [hsplit, hdelay]
  cases hs
  decide +kernel

theorem receive_of_quiet {s : Stream} {piece : List UInt8}
    (hpiece : s.decoder.push piece = ([], s.decoder)) (hretry : s.decoder.retry = none) :
    s.receive piece = ([], s) := by
  rw [Stream.receive, hpiece]
  dsimp only
  rw [adoptRetry.eq_def]
  dsimp only
  rw [hretry]
  rfl

theorem receiveAll_of_quiet {s : Stream} {pieces : List (List UInt8)}
    (hpieces : ∀ piece ∈ pieces, s.decoder.push piece = ([], s.decoder))
    (hretry : s.decoder.retry = none) : s.receiveAll pieces = ([], s) := by
  induction pieces using List.reverseRecOn with
  | nil => rfl
  | append_singleton pieces piece ih =>
      rw [receiveAll_concat, ih fun piece hpiece => hpieces piece (by simp [hpiece]),
        receive_of_quiet (hpieces piece (by simp)) hretry]
      rfl

theorem run_singleton (s : Stream) (answer : Answer) : s.run [answer] = s.attempt answer :=
  s.run_concat [] answer

/-- A delay is not heard of if its line is dropped, here for the return before its end. -/
theorem dropped_delay_not_heard :
    let line : List UInt8 :=
      [0x72, 0x65, 0x74, 0x72, 0x79, 0x3a, 0x20] ++ List.replicate (maxLine - 8) 0x30 ++ [0x35]
    let body : Body := { pieces := [line ++ [0x0d], [0x0a]] }
    ∃ s, start? .timeline {} = some s ∧
      (s.run [.reply { status := 200, body }]).1 =
        [.connected, .disconnected "stream closed by server" 3000] ∧
      retries (lineTexts body.pieces.flatten) = [5] := by
  have hroom : maxLine - 8 + 8 = maxLine := Nat.sub_add_cancel (by decide)
  generalize maxLine - 8 = n at hroom
  intro line body
  have hmem : 0x0a ∉ line := by simp [line]
  obtain ⟨s, hs⟩ : ∃ s, start? .timeline {} = some s := ⟨_, rfl⟩
  refine ⟨s, hs, ?_, ?_⟩
  · have hfull : line.length = maxLine := by
      rw [List.length_append, List.length_append, List.length_replicate, ← hroom]
      change 7 + n + 1 = n + 8
      omega
    have hdropped : ({} : Decoder).push (line ++ [0x0d]) = ([], {}) :=
      Decoder.push_full_line hmem ((Nat.zero_add _).trans hfull)
    have hended : ({} : Decoder).push [0x0a] = ([], {}) := by decide
    have hquiet : ∀ piece ∈ body.pieces, ({} : Decoder).push piece = ([], {}) := by
      intro piece hpiece
      rcases List.mem_pair.mp hpiece with rfl | rfl
      · exact hdropped
      · exact hended
    cases hs
    rw [run_singleton, attempt_of_opened rfl, receiveAll_of_quiet hquiet rfl]
    rfl
  · have hascii : ∀ b ∈ line, b < 0x80 := by
      rw [List.forall_mem_append, List.forall_mem_append]
      refine ⟨⟨by simp, ?_⟩, by simp⟩
      intro b hzero
      rw [List.eq_of_mem_replicate hzero]
      decide
    have htext : Text.decodeLossy line =
        "retry".toList ++ ':' :: ' ' :: (List.replicate n '0' ++ ['5']) := by
      rw [Text.decodeLossy_of_ascii hascii]
      simp [line]
    have hflatten : body.pieces.flatten = line ++ [0x0d] ++ [0x0a] := by simp [body]
    have hwish := wish?_zeros n
    rw [← htext] at hwish
    rw [retries_eq_filterMap, hflatten, lineTexts_of_line hmem]
    simp [hwish]

end Stream

end FeedReader.Live
