import FeedReader.Keys.Keymap
import FeedReader.Proofs.Keys.KeyTexts
import Mathlib.Data.List.Induction
import Mathlib.Data.List.Nodup

/-!
# Binding actions anew

Each action has a home: going back is bound on the help screen, every other action
everywhere.  Overrides keep bindings at home and leave no action without one.  So to bind
an action anew changes its home alone: there the new key means the action, the keys that
meant it mean nothing, and its only binding is the last one on record.
-/

namespace FeedReader.Keys

def Action.home : Action → Context
  | .back => .help
  | _ => .everywhere

theorem Action.describe_inj {a b : Action} (h : a.describe = b.describe) : a = b := by
  cases a <;> cases b <;> first | rfl | exact absurd h (by decide)

theorem Action.eq_back_of_home {a : Action} (h : a.home = .help) : a = .back := by
  cases a <;> first | rfl | cases h

/-- Where a binding stands: no two bindings in force share it. -/
def Binding.place (b : Binding) : Context × Key := (b.context, b.key)

namespace Keymap

variable {m : Keymap}

/-! ## One binding -/

theorem mem_inForce_bind {b : Binding} {context : Context} {key : Key} {action : Action} :
    b ∈ (m.bind context key action).inForce ↔
      b = ⟨context, key.normalized, action⟩ ∨
        b ∈ m.inForce ∧ b.place ≠ (context, key.normalized) := by
  simp [bind, Binding.place, imp_iff_not_or]

theorem mem_inForce_unbind {b : Binding} {action : Action} :
    b ∈ (m.unbind action).inForce ↔ b ∈ m.inForce ∧ b.action ≠ action := by
  simp [unbind]

theorem inContext?_eq_some_iff (h : (m.inForce.map Binding.place).Nodup) {context : Context}
    {key : Key} {action : Action} :
    m.inContext? context key = some action ↔ ⟨context, key, action⟩ ∈ m.inForce := by
  rw [inContext?, Option.map_eq_some_iff]
  constructor
  · rintro ⟨⟨context', key', action'⟩, hfind, rfl⟩
    have hplace : context' = context ∧ key' = key := by simpa using List.find?_some hfind
    obtain ⟨rfl, rfl⟩ := hplace
    exact List.mem_of_find?_eq_some hfind
  · intro hmem
    cases hfind : m.inForce.find? fun b => b.context = context && b.key = key with
    | none =>
        have hnone := List.find?_eq_none.mp hfind _ hmem
        simp at hnone
    | some b =>
        have hplace : b.place = Binding.place ⟨context, key, action⟩ := by
          simpa [Binding.place] using List.find?_some hfind
        have hb := List.inj_on_of_nodup_map h (List.mem_of_find?_eq_some hfind) hmem hplace
        exact ⟨b, rfl, by rw [hb]⟩

/-! ## Bindings at home -/

/-- Bindings stand at home, one for each key in force, and every action has some. -/
structure Housed (m : Keymap) : Prop where
  distinct : (m.inForce.map Binding.place).Nodup
  inForce_home : ∀ b ∈ m.inForce, b.context = b.action.home
  recorded_home : ∀ b ∈ m.recorded, b.context = b.action.home
  recorded_all : ∀ action, ∃ b ∈ m.recorded, b.action = action

theorem eraseReps_replicate (context : Context) (n : Nat) :
    (List.replicate (n + 1) context).eraseReps = [context] := by
  have hloop : ∀ found, List.eraseRepsBy.loop (· == ·) context (List.replicate n context) found =
      (context :: found).reverse := by
    induction n with
    | zero => exact fun found => rfl
    | succ n ih =>
        intro found
        rw [List.replicate_succ, List.eraseRepsBy.loop, beq_self_eq_true]
        exact ih found
  exact hloop []

theorem Housed.contexts_eq (h : m.Housed) (action : Action) :
    m.contexts action = [action.home] := by
  obtain ⟨b, hb, rfl⟩ := h.recorded_all action
  have hall : ∀ context ∈ (m.recorded.filter (·.action = b.action)).map Binding.context,
      context = b.action.home := by
    intro context hcontext
    obtain ⟨b', hb', rfl⟩ := List.mem_map.mp hcontext
    obtain ⟨hmem, haction⟩ := List.mem_filter.mp hb'
    rw [h.recorded_home b' hmem, of_decide_eq_true haction]
  have hreplicate := List.eq_replicate_of_mem hall
  have hpos : (m.recorded.filter (·.action = b.action)).map Binding.context ≠ [] :=
    List.ne_nil_of_mem
      (List.mem_map_of_mem (List.mem_filter.mpr ⟨hb, decide_eq_true rfl⟩))
  obtain ⟨n, hn⟩ := Nat.exists_eq_succ_of_ne_zero (mt List.eq_nil_of_length_eq_zero hpos)
  rw [contexts, hreplicate, hn, eraseReps_replicate]

theorem Housed.rebind_eq (h : m.Housed) (action : Action) (key : Key) :
    m.rebind action key = (m.unbind action).bind action.home key action := by
  rw [rebind, h.contexts_eq]
  rfl

theorem Housed.mem_inForce_rebind (h : m.Housed) {b : Binding} {action : Action} {key : Key} :
    b ∈ (m.rebind action key).inForce ↔
      b = ⟨action.home, key.normalized, action⟩ ∨
        b ∈ m.inForce ∧ b.action ≠ action ∧ b.place ≠ (action.home, key.normalized) := by
  rw [h.rebind_eq, mem_inForce_bind, mem_inForce_unbind, and_assoc]

theorem Housed.recorded_rebind (h : m.Housed) (action : Action) (key : Key) :
    (m.rebind action key).recorded =
      m.recorded.filter (·.action ≠ action) ++ [⟨action.home, key.normalized, action⟩] := by
  rw [h.rebind_eq]
  rfl

theorem Housed.rebind (h : m.Housed) (action : Action) (key : Key) :
    (m.rebind action key).Housed where
  distinct := by
    rw [h.rebind_eq, bind, List.map_cons, List.nodup_cons]
    constructor
    · intro hmem
      obtain ⟨b, hb, hplace⟩ := List.mem_map.mp hmem
      have hne := (List.mem_filter.mp hb).2
      have hsame : b.context = action.home ∧ b.key = key.normalized := by
        simpa [Binding.place] using hplace
      simp [hsame] at hne
    · exact h.distinct.sublist ((List.filter_sublist.trans List.filter_sublist).map _)
  inForce_home := by
    intro b hb
    obtain rfl | ⟨hmem, -, -⟩ := h.mem_inForce_rebind.mp hb
    · rfl
    · exact h.inForce_home b hmem
  recorded_home := by
    intro b hb
    rw [h.recorded_rebind, List.mem_append, List.mem_singleton] at hb
    obtain hmem | rfl := hb
    · exact h.recorded_home b (List.mem_of_mem_filter hmem)
    · rfl
  recorded_all := by
    intro other
    rw [h.recorded_rebind]
    by_cases hother : other = action
    · exact ⟨_, List.mem_append_right _ (List.mem_singleton_self _), hother.symm⟩
    · obtain ⟨b, hb, rfl⟩ := h.recorded_all other
      exact ⟨b, List.mem_append_left _ (List.mem_filter.mpr ⟨hb, decide_eq_true hother⟩), rfl⟩

theorem housed_default : Keymap.default.Housed where
  distinct := by decide
  inForce_home := by decide
  recorded_home := by decide
  recorded_all := by
    intro action
    cases action <;> decide

/-! ## Overrides -/

inductive Reachable : Keymap → Prop where
  | default : Reachable .default
  | overridden {m : Keymap} (h : Reachable m) (overrides : List (String × String)) :
      Reachable (m.applyOverrides overrides).2

def change? (entry : String × String) : Option (Action × Key) :=
  (Action.named? entry.1).bind fun action => (parseKey? entry.2).map fun key => (action, key)

def changes (overrides : List (String × String)) : List (Action × Key) :=
  overrides.filterMap change?

theorem mem_changes_iff {overrides : List (String × String)} {change : Action × Key} :
    change ∈ changes overrides ↔ ∃ entry ∈ overrides, change? entry = some change :=
  List.mem_filterMap

def rebindAll (m : Keymap) (changes : List (Action × Key)) : Keymap :=
  changes.foldl (fun m change => m.rebind change.1 change.2) m

@[simp] theorem rebindAll_nil (m : Keymap) : m.rebindAll [] = m := rfl

@[simp] theorem rebindAll_cons (m : Keymap) (change : Action × Key)
    (changes : List (Action × Key)) :
    m.rebindAll (change :: changes) = (m.rebind change.1 change.2).rebindAll changes := rfl

theorem rebindAll_concat (m : Keymap) (changes : List (Action × Key)) (change : Action × Key) :
    m.rebindAll (changes ++ [change]) = (m.rebindAll changes).rebind change.1 change.2 :=
  List.foldl_concat ..

theorem changes_append (overrides more : List (String × String)) :
    changes (overrides ++ more) = changes overrides ++ changes more :=
  List.filterMap_append

def warningOf (entry : String × String) : Warning :=
  if (Action.named? entry.1).isNone then .unknownAction entry.1
  else .unknownKey entry.2 entry.1

theorem override_eq (m : Keymap) (entry : String × String) :
    m.override entry.1 entry.2 =
      match change? entry with
      | some change => .ok (m.rebind change.1 change.2)
      | none => .error (warningOf entry) := by
  obtain ⟨name, text⟩ := entry
  rw [override, change?, warningOf]
  cases Action.named? name with
  | none => rfl
  | some action => cases parseKey? text <;> simp

theorem applyOverrides_concat (m : Keymap) (overrides : List (String × String))
    (entry : String × String) :
    m.applyOverrides (overrides ++ [entry]) =
      let (warnings, m') := m.applyOverrides overrides
      match change? entry with
      | some change => (warnings, m'.rebind change.1 change.2)
      | none => (warnings ++ [warningOf entry], m') := by
  rw [applyOverrides, List.foldl_concat, ← applyOverrides]
  dsimp only
  rw [override_eq]
  cases change? entry <;> rfl

theorem applyOverrides_snd (m : Keymap) (overrides : List (String × String)) :
    (m.applyOverrides overrides).2 = m.rebindAll (changes overrides) := by
  induction overrides using List.reverseRecOn with
  | nil => rfl
  | append_singleton overrides entry ih =>
      rw [applyOverrides_concat, changes_append]
      cases hchange : change? entry with
      | none => simp [changes, hchange, ih]
      | some change => simp [changes, hchange, ih, rebindAll_concat]

theorem Housed.rebindAll (h : m.Housed) (changes : List (Action × Key)) :
    (m.rebindAll changes).Housed := by
  induction changes generalizing m with
  | nil => exact h
  | cons change changes ih => exact ih (h.rebind change.1 change.2)

theorem Reachable.housed (h : m.Reachable) : m.Housed := by
  induction h with
  | default => exact housed_default
  | overridden _ overrides ih =>
      rw [applyOverrides_snd]
      exact ih.rebindAll _

theorem normalized_of_parseKey? {text : String} {key : Key} (h : parseKey? text = some key) :
    key.normalized = key := by
  cases isNameable_of_parseKey? h with
  | char hc => rfl
  | control hc => rfl
  | @named name code hname => cases code <;> rfl
  | function hfirst hlast => rfl

theorem normalized_of_change? {entry : String × String} {change : Action × Key}
    (h : change? entry = some change) : change.2.normalized = change.2 := by
  obtain ⟨action, -, hkey⟩ := Option.bind_eq_some_iff.mp h
  obtain ⟨key, hparse, rfl⟩ := Option.map_eq_some_iff.mp hkey
  exact normalized_of_parseKey? hparse

end Keymap

end FeedReader.Keys
