import Mathlib.Data.List.DropRight
import FeedReader.Proofs.Listing.Snapshots

/-!
# What waits in a queue, read off its history

A key waits from the push that finds it absent until it is taken off or everything is.  The main
statement says that the queue lists exactly these keys, the one that came last first, each with the
snapshot that was pushed last, and that every answer can be told from the history as well.
-/

namespace FeedReader.Queue

/-! ## Histories -/

/-- Of what is drained only the first `taken` items may be read. -/
inductive Op (α κ : Type) where
  | push (item : α)
  | remove (k : κ)
  | drain (taken : Nat)
  | clear

inductive Answer (α : Type) where
  | pushed (pending : Pending)
  | removed (item : Option α)
  | drained (items : List α)
  | cleared
  deriving DecidableEq

variable {α κ : Type} [Keyed α κ] [DecidableEq κ]

def perform (q : Queue α) : Op α κ → Answer α × Queue α
  | .push x => (.pushed (q.push x).1, (q.push x).2)
  | .remove k => (.removed (q.remove k).1, (q.remove k).2)
  | .drain taken => (.drained (q.drain.1.take taken), q.drain.2)
  | .clear => (.cleared, {})

def after (ops : List (Op α κ)) : Queue α := ops.foldl (fun q op => (q.perform op).2) {}

theorem after_concat (ops : List (Op α κ)) (op : Op α κ) :
    after (ops ++ [op]) = ((after ops).perform op).2 := by
  rw [after, List.foldl_append]
  rfl

/-! ## What a history says of a key -/

def Op.takesOff (k : κ) : Op α κ → Bool
  | .push _ => false
  | .remove j => j = k
  | .drain _ | .clear => true

def Op.snapshot? (k : κ) : Op α κ → Option α
  | .push x => if key x = k then some x else none
  | _ => none

def sinceAbsent (k : κ) (ops : List (Op α κ)) : List (Op α κ) :=
  ops.rtakeWhile fun op => !op.takesOff k

/-- The snapshots of the key that were pushed since then, the oldest first. -/
def arrived (k : κ) (ops : List (Op α κ)) : List α :=
  (sinceAbsent k ops).filterMap (Op.snapshot? k)

/-- How many operations came before the first of these snapshots. -/
def arrival (k : κ) (ops : List (Op α κ)) : Nat :=
  ops.length - (sinceAbsent k ops).length +
    (sinceAbsent k ops).findIdx fun op => (op.snapshot? k).isSome

variable {k : κ} {ops : List (Op α κ)} {op : Op α κ}

omit [Keyed α κ] in
theorem sinceAbsent_concat_of_takesOff (h : op.takesOff k = true) :
    sinceAbsent k (ops ++ [op]) = [] :=
  List.rtakeWhile_concat_neg _ _ _ (by simp [h])

omit [Keyed α κ] in
theorem sinceAbsent_concat_of_not_takesOff (h : op.takesOff k = false) :
    sinceAbsent k (ops ++ [op]) = sinceAbsent k ops ++ [op] :=
  List.rtakeWhile_concat_pos _ _ _ (by simp [h])

theorem arrived_concat_of_takesOff (h : op.takesOff k = true) : arrived k (ops ++ [op]) = [] := by
  rw [arrived, sinceAbsent_concat_of_takesOff h, List.filterMap_nil]

theorem arrived_concat_of_not_takesOff (h : op.takesOff k = false) :
    arrived k (ops ++ [op]) = arrived k ops ++ (op.snapshot? k).toList := by
  rw [arrived, sinceAbsent_concat_of_not_takesOff h, List.filterMap_append, ← arrived]
  cases hop : op.snapshot? k <;> simp [hop]

omit [Keyed α κ] in
theorem length_sinceAbsent_le (k : κ) (ops : List (Op α κ)) :
    (sinceAbsent k ops).length ≤ ops.length :=
  (List.rtakeWhile_suffix _ _).length_le

theorem findIdx_lt_iff : ((sinceAbsent k ops).findIdx fun op => (op.snapshot? k).isSome) <
    (sinceAbsent k ops).length ↔ arrived k ops ≠ [] := by
  rw [List.findIdx_lt_length, arrived, ne_eq, List.filterMap_eq_nil_iff]
  simp [Option.isSome_iff_ne_none]

theorem arrival_lt (h : arrived k ops ≠ []) : arrival k ops < ops.length := by
  have hlength := length_sinceAbsent_le k ops
  have hfirst := findIdx_lt_iff.mpr h
  rw [arrival]
  omega

theorem arrival_concat_of_arrived (hop : op.takesOff k = false) (h : arrived k ops ≠ []) :
    arrival k (ops ++ [op]) = arrival k ops := by
  have hfirst := findIdx_lt_iff.mpr h
  rw [arrival, arrival, sinceAbsent_concat_of_not_takesOff hop, List.findIdx_append,
    if_pos hfirst, List.length_append, List.length_append]
  simp

theorem arrival_concat_push (x : α) (h : arrived (key x) ops = []) :
    arrival (key x) (ops ++ [.push x]) = ops.length := by
  have hnone := mt findIdx_lt_iff.mp (not_not_intro h)
  have hlength := length_sinceAbsent_le (key x) ops
  rw [arrival, sinceAbsent_concat_of_not_takesOff rfl, List.findIdx_append, if_neg hnone,
    List.length_append, List.length_append]
  simp [Op.snapshot?]
  omega

/-! ## One operation -/

/-- The queue lists the keys that wait, the one that came last first, in their latest snapshots. -/
structure Records (q : Queue α) (ops : List (Op α κ)) : Prop where
  distinct : (q.items.map key).Nodup
  latest : ∀ k, snapshot? q.items k = (arrived k ops).getLast?
  ordered : (q.items.map key).Pairwise fun newer older => arrival older ops < arrival newer ops

variable {q : Queue α}

theorem Records.mem_keys_iff (h : q.Records ops) (k : κ) :
    k ∈ q.items.map key ↔ arrived k ops ≠ [] := by
  rw [← not_iff_not, ← snapshot?_eq_none_iff, h.latest, List.getLast?_eq_none_iff, not_not]

theorem Records.eq {q' : Queue α} (h : q.Records ops) (h' : q'.Records ops) : q = q' := by
  have hperm : (q.items.map key).Perm (q'.items.map key) := by
    rw [List.perm_ext_iff_of_nodup h.distinct h'.distinct]
    intro k
    rw [h.mem_keys_iff, h'.mem_keys_iff]
  have hkeys : q.items.map key = q'.items.map key :=
    hperm.eq_of_pairwise (fun _ _ _ _ hlt hgt => absurd hlt hgt.asymm) h.ordered h'.ordered
  have hitems : q.items = q'.items := by
    refine eq_of_snapshot?_eq h.distinct hkeys ?_
    intro k
    rw [h.latest, h'.latest]
  exact congrArg Queue.mk hitems

theorem Records.pairwise_of_sublist (h : q.Records ops) (op : Op α κ) {keys : List κ}
    (hkeys : keys.Sublist (q.items.map key)) (hstay : ∀ k ∈ keys, op.takesOff k = false) :
    keys.Pairwise fun newer older =>
      arrival older (ops ++ [op]) < arrival newer (ops ++ [op]) := by
  refine (h.ordered.sublist hkeys).imp_of_mem ?_
  intro newer older hnewer holder hlt
  have hwaits := fun k hk => (h.mem_keys_iff k).mp (hkeys.subset hk)
  rwa [arrival_concat_of_arrived (hstay _ holder) (hwaits _ holder),
    arrival_concat_of_arrived (hstay _ hnewer) (hwaits _ hnewer)]

theorem Records.push (h : q.Records ops) (x : α) : (q.push x).2.Records (ops ++ [.push x]) where
  distinct := nodup_keys_push h.distinct x
  latest := by
    intro k
    rw [snapshot?_push, h.latest, arrived_concat_of_not_takesOff rfl]
    by_cases hk : key x = k
    · simp [Op.snapshot?, hk]
    · simp [Op.snapshot?, hk]
  ordered := by
    change (q.push x).2.keys.Pairwise _
    rw [keys_push]
    have hrest := h.pairwise_of_sublist (.push x) (.refl _) fun _ _ => rfl
    split
    · exact hrest
    · next hnew =>
        have hfresh : arrived (key x) ops = [] := not_not.mp (mt (h.mem_keys_iff _).mpr hnew)
        refine List.pairwise_cons.mpr ⟨?_, hrest⟩
        intro k hk
        have hwaits := (h.mem_keys_iff k).mp hk
        rw [arrival_concat_push x hfresh, arrival_concat_of_arrived rfl hwaits]
        exact arrival_lt hwaits

theorem Records.remove (h : q.Records ops) (j : κ) :
    (q.remove j).2.Records (ops ++ [.remove j]) where
  distinct := by
    change (q.remove j).2.keys.Nodup
    rw [keys_remove]
    exact h.distinct.erase j
  latest := by
    intro k
    rw [snapshot?_remove h.distinct, h.latest]
    by_cases hk : j = k
    · rw [if_pos hk, arrived_concat_of_takesOff (by simp [Op.takesOff, hk]), List.getLast?_nil]
    · rw [if_neg hk, arrived_concat_of_not_takesOff (by simp [Op.takesOff, hk])]
      simp [Op.snapshot?]
  ordered := by
    change (q.remove j).2.keys.Pairwise _
    rw [keys_remove_of_nodup h.distinct]
    refine h.pairwise_of_sublist (.remove j) List.filter_sublist ?_
    intro k hk
    have hne : k ≠ j := by simpa using (List.mem_filter.mp hk).2
    simp [Op.takesOff, Ne.symm hne]

theorem records_empty (hop : ∀ k, op.takesOff k = true) :
    ({} : Queue α).Records (ops ++ [op]) where
  distinct := List.nodup_nil
  latest := by
    intro k
    rw [arrived_concat_of_takesOff (hop k)]
    rfl
  ordered := .nil

theorem Records.perform (h : q.Records ops) (op : Op α κ) :
    (q.perform op).2.Records (ops ++ [op]) := by
  cases op with
  | push x => exact h.push x
  | remove j => exact h.remove j
  | drain taken => exact records_empty fun _ => rfl
  | clear => exact records_empty fun _ => rfl

/-! ## Whole histories -/

theorem records_after (ops : List (Op α κ)) : (after ops).Records ops := by
  induction ops using List.reverseRecOn with
  | nil => exact ⟨List.nodup_nil, fun _ => rfl, .nil⟩
  | append_singleton ops op ih =>
      rw [after_concat]
      exact ih.perform op

theorem records_iff (ops : List (Op α κ)) (q : Queue α) : q.Records ops ↔ q = after ops := by
  constructor
  · intro h
    exact h.eq (records_after ops)
  · rintro rfl
    exact records_after ops

theorem Records.push_fst (h : q.Records ops) (x : α) :
    (q.push x).1 = if arrived (key x) ops = [] then .added (q.push x).2.size else .replaced := by
  have hwaits : (q.items.any fun y => key y = key x) = true ↔ arrived (key x) ops ≠ [] := by
    rw [← h.mem_keys_iff]
    simp
  rw [Queue.push]
  by_cases hx : arrived (key x) ops = []
  · rw [if_neg (by rw [hwaits]; exact not_not_intro hx), if_pos hx]
    rfl
  · rw [if_pos (hwaits.mpr hx), if_neg hx]

/--
After any history the queue is the one list of the keys that wait, each once, the one that came
last first, in the snapshots that were pushed last.  An arrival is new exactly if its key did not
wait, and what is removed is what waited of its key.  All that waits is drained, oldest first,
however much of it is read.
-/
theorem arrivals_of_history (ops : List (Op α κ)) :
    let q := after ops
    (∀ q' : Queue α, q'.Records ops ↔ q' = q) ∧
    (∀ k : κ, k ∈ q.items.map key ↔ arrived k ops ≠ []) ∧
    (∀ op, (q.perform op).1 =
      match op with
      | .push x =>
          .pushed <|
            if arrived (key x) ops = [] then .added (after (ops ++ [op])).size else .replaced
      | .remove k => .removed (arrived k ops).getLast?
      | .drain taken => .drained (q.items.reverse.take taken)
      | .clear => .cleared) ∧
    ∀ taken, (after (ops ++ [.drain taken])).items = [] := by
  intro q
  have h : q.Records ops := records_after ops
  refine ⟨records_iff ops, h.mem_keys_iff, ?_, ?_⟩
  · intro op
    cases op with
    | push x =>
        rw [after_concat]
        exact congrArg Answer.pushed (h.push_fst x)
    | remove k => exact congrArg Answer.removed (h.latest k)
    | drain taken => rfl
    | clear => rfl
  · intro taken
    rw [after_concat]
    rfl

end FeedReader.Queue
