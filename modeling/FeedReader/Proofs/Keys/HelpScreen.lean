import FeedReader.Proofs.Keys.Rebinding
import FeedReader.Proofs.Splits
import Mathlib.Data.List.Perm.Subperm

/-!
# What the help screen says of keys

The help screen lists an action under the last key that it was given, or under its default
keys if it was given none.  A later override can give that key to another action, but does
not strike it from the list.  So each key that does something is listed for it, and the list
is wrong about exactly the keys that were taken in this way.
-/

namespace FeedReader.Keys

theorem Key.normalized_normalized (key : Key) : key.normalized.normalized = key.normalized := by
  obtain ⟨code, ctrl, shift, alt⟩ := key
  cases code <;> rfl

namespace Keymap

variable {m : Keymap} {action changed : Action} {key new : Key}

/-! ## What is listed -/

def listed (m : Keymap) (action : Action) : List Key :=
  (m.recorded.filter fun b => b.context = .everywhere && b.action = action).map Binding.key

theorem keysOf_eq_map_listed (m : Keymap) (action : Action) :
    m.keysOf action = (m.listed action).map Key.text := by
  simp [keysOf, listed]

theorem keyFor?_eq_map_head? (m : Keymap) (action : Action) :
    m.keyFor? action = (m.listed action).head?.map Key.text := by
  simp [keyFor?, listed]
  rfl

theorem mem_listed : key ∈ m.listed action ↔ ⟨.everywhere, key, action⟩ ∈ m.recorded := by
  simp only [listed, List.mem_map, List.mem_filter, Bool.and_eq_true, decide_eq_true_eq]
  constructor
  · rintro ⟨⟨_, _, _⟩, ⟨hmem, rfl, rfl⟩, rfl⟩
    exact hmem
  · intro hmem
    exact ⟨_, ⟨hmem, rfl, rfl⟩, rfl⟩

/-! ## What the changes say -/

/-- The last key that an action was given for use everywhere, or else its default keys. -/
def given (changes : List (Action × Key)) (action : Action) : List Key :=
  match (changes.filter (·.1 = action)).getLast? with
  | some (_, key) => if action.home = .everywhere then [key.normalized] else []
  | none => default.listed action

/-- Another action was given the key, and this one has not been bound since. -/
def Taken (changes : List (Action × Key)) (action : Action) (key : Key) : Prop :=
  ∃ before change after, changes = before ++ change :: after ∧ change.1 ≠ action ∧
    change.1.home = .everywhere ∧ change.2.normalized = key ∧ ∀ later ∈ after, later.1 ≠ action

theorem given_concat_self (changes : List (Action × Key)) (action : Action) (key : Key) :
    given (changes ++ [(action, key)]) action =
      if action.home = .everywhere then [key.normalized] else [] := by
  simp [given]

theorem given_concat_of_ne (changes : List (Action × Key)) (hne : changed ≠ action) (new : Key) :
    given (changes ++ [(changed, new)]) action = given changes action := by
  simp [given, hne]

theorem not_taken_nil : ¬Taken [] action key := by
  simp [Taken]

theorem taken_concat {changes : List (Action × Key)} :
    Taken (changes ++ [(changed, new)]) action key ↔
      changed ≠ action ∧
        (Taken changes action key ∨ changed.home = .everywhere ∧ new.normalized = key) := by
  constructor
  · rintro ⟨before, change, after, hsplit, hne, hhome, hkey, hafter⟩
    rcases append_singleton_eq_split_iff.mp hsplit with ⟨rfl, rfl, rfl⟩ | ⟨middle, rfl, rfl⟩
    · exact ⟨hne, .inr ⟨hhome, hkey⟩⟩
    · obtain ⟨hmiddle, hlast⟩ := List.forall_mem_append.mp hafter
      exact ⟨hlast _ List.mem_cons_self,
        .inl ⟨before, change, middle, rfl, hne, hhome, hkey, hmiddle⟩⟩
  · rintro ⟨hlast, ⟨before, change, after, rfl, hne, hhome, hkey, hafter⟩ | ⟨hhome, hkey⟩⟩
    · refine ⟨before, change, after ++ [(changed, new)], by simp, hne, hhome, hkey, ?_⟩
      exact List.forall_mem_append.mpr ⟨hafter, by simpa using hlast⟩
    · exact ⟨changes, (changed, new), [], rfl, hlast, hhome, hkey, by simp⟩

/-! ## One change -/

theorem Housed.listed_rebind_self (h : m.Housed) :
    (m.rebind action new).listed action =
      if action.home = .everywhere then [new.normalized] else [] := by
  rw [listed, h.recorded_rebind]
  split <;> simp [*]

theorem Housed.listed_rebind_of_ne (h : m.Housed) (hne : changed ≠ action) :
    (m.rebind changed new).listed action = m.listed action := by
  have hkept : ∀ b ∈ m.recorded,
      (b.context = .everywhere && b.action = action && decide (b.action ≠ changed)) =
        (b.context = .everywhere && b.action = action) := by
    intro b _
    by_cases hb : b.action = action
    · simp [hb, hne.symm]
    · simp [hb]
  rw [listed, h.recorded_rebind, List.filter_append, List.filter_filter, List.filter_congr hkept]
  simp [hne, listed]

theorem Housed.mem_inForce_rebind_self (h : m.Housed) :
    ⟨.everywhere, key, action⟩ ∈ (m.rebind action new).inForce ↔
      key ∈ (m.rebind action new).listed action := by
  simp [h.mem_inForce_rebind, mem_listed, h.recorded_rebind]

theorem Housed.mem_inForce_rebind_of_ne (h : m.Housed) (hne : changed ≠ action) :
    ⟨.everywhere, key, action⟩ ∈ (m.rebind changed new).inForce ↔
      ⟨.everywhere, key, action⟩ ∈ m.inForce ∧
        ¬(changed.home = .everywhere ∧ new.normalized = key) := by
  simp [h.mem_inForce_rebind, Binding.place, hne.symm, eq_comm]

/-! ## Any number of changes -/

theorem listed_rebindAll_default (changes : List (Action × Key)) (action : Action) :
    (default.rebindAll changes).listed action = given changes action := by
  induction changes using List.reverseRecOn with
  | nil => rfl
  | append_singleton changes change ih =>
      have hhoused := housed_default.rebindAll changes
      obtain ⟨changed, new⟩ := change
      rw [rebindAll_concat]
      by_cases hsame : changed = action
      · subst hsame
        rw [hhoused.listed_rebind_self, given_concat_self]
      · rw [hhoused.listed_rebind_of_ne hsame, given_concat_of_ne changes hsame, ih]

theorem mem_inForce_rebindAll_default (changes : List (Action × Key)) :
    ⟨.everywhere, key, action⟩ ∈ (default.rebindAll changes).inForce ↔
      key ∈ (default.rebindAll changes).listed action ∧ ¬Taken changes action key := by
  induction changes using List.reverseRecOn with
  | nil =>
      have hsame : default.inForce.Perm default.recorded := by decide
      simp [mem_listed, hsame.mem_iff, not_taken_nil]
  | append_singleton changes change ih =>
      have hhoused := housed_default.rebindAll changes
      obtain ⟨changed, new⟩ := change
      rw [rebindAll_concat, taken_concat]
      by_cases hsame : changed = action
      · subst hsame
        simp [hhoused.mem_inForce_rebind_self]
      · rw [hhoused.mem_inForce_rebind_of_ne hsame, hhoused.listed_rebind_of_ne hsame, ih]
        tauto

theorem normalized_of_mem_given {changes : List (Action × Key)} (h : key ∈ given changes action) :
    key.normalized = key := by
  have hdefault : ∀ action, ∀ key ∈ default.listed action, key.normalized = key := by
    intro action
    cases action <;> decide
  rw [given] at h
  split at h
  · split at h
    · rw [List.mem_singleton.mp h, Key.normalized_normalized]
    · cases h
  · exact hdefault action key h

/-! ## Any number of settings -/

/-- The keymap that the overrides of several settings leave, one after the other. -/
def customized (settings : List (List (String × String))) : Keymap :=
  settings.foldl (fun m overrides => (m.applyOverrides overrides).2) default

theorem customized_eq (settings : List (List (String × String))) :
    customized settings = default.rebindAll (changes settings.flatten) := by
  induction settings using List.reverseRecOn with
  | nil => rfl
  | append_singleton settings overrides ih =>
      have hlast : customized (settings ++ [overrides]) =
          ((customized settings).applyOverrides overrides).2 := List.foldl_concat ..
      rw [hlast, applyOverrides_snd, ih, List.flatten_concat, changes_append]
      exact (List.foldl_append ..).symm

theorem listed_customized (settings : List (List (String × String))) (action : Action) :
    (customized settings).listed action = given (changes settings.flatten) action := by
  rw [customized_eq, listed_rebindAll_default]

theorem action?_customized_eq_some_iff (settings : List (List (String × String)))
    (action : Action) (key : Key) :
    (customized settings).action? .everywhere key = some action ↔
      key.normalized ∈ (customized settings).listed action ∧
        ¬Taken (changes settings.flatten) action key.normalized := by
  have hhoused := housed_default.rebindAll (changes settings.flatten)
  rw [customized_eq, action?, Option.or_self, inContext?_eq_some_iff hhoused.distinct]
  exact mem_inForce_rebindAll_default _

/--
An action is listed under the keys that it was given, and a key does what it is listed for
unless it was taken.  So the help screen is right about all keys exactly if no listed key was
taken.
-/
theorem help_agrees_iff (settings : List (List (String × String))) :
    (∀ action,
      (customized settings).listed action = given (changes settings.flatten) action ∧
      (customized settings).keysOf action =
        ((customized settings).listed action).map Key.text ∧
      (customized settings).keyFor? action =
        ((customized settings).listed action).head?.map Key.text) ∧
    (∀ action key, (customized settings).action? .everywhere key = some action ↔
      key.normalized ∈ (customized settings).listed action ∧
        ¬Taken (changes settings.flatten) action key.normalized) ∧
    ((∀ action key, key.normalized ∈ (customized settings).listed action ↔
        (customized settings).action? .everywhere key = some action) ↔
      ∀ action, ∀ key ∈ (customized settings).listed action,
        ¬Taken (changes settings.flatten) action key) := by
  have hlisted := listed_customized settings
  have hmeant := action?_customized_eq_some_iff settings
  refine ⟨fun action => ⟨hlisted action, keysOf_eq_map_listed _ action,
    keyFor?_eq_map_head? _ action⟩, hmeant, ?_, ?_⟩
  · intro htrue action key hkey
    have hnormal : key.normalized = key := normalized_of_mem_given (hlisted action ▸ hkey)
    rw [← hnormal] at hkey ⊢
    exact ((hmeant action key).mp ((htrue action key).mp hkey)).2
  · intro hnone action key
    rw [hmeant]
    exact ⟨fun hkey => ⟨hkey, hnone action _ hkey⟩, And.left⟩

/-- The key that shows new items is given to quitting, and the help screen has it for both. -/
theorem help_row_of_taken_key :
    let m := customized [[("quit", "n")]]
    let key : Key := { code := .char 'n' }
    ("n", "Show new items") ∈ m.helpRows ∧ m.keyFor? .flush = some "n" ∧
      key.normalized ∈ m.listed .flush ∧ m.action? .everywhere key = some .quit ∧
      ¬∀ action key, key.normalized ∈ m.listed action ↔
        m.action? .everywhere key = some action := by
  intro m key
  have hlisted : key.normalized ∈ m.listed .flush := by decide
  have hquits : m.action? .everywhere key = some .quit := by decide
  refine ⟨by decide, by decide, hlisted, hquits, fun htrue => ?_⟩
  have hshows := (htrue .flush key).mp hlisted
  rw [hquits] at hshows
  cases hshows

/-! ## How many rows there are -/

theorem nodup_eraseDups {α : Type} [BEq α] [LawfulBEq α] : ∀ xs : List α, xs.eraseDups.Nodup
  | [] => List.nodup_nil
  | x :: xs => by
      rw [List.eraseDups_cons, List.nodup_cons]
      exact ⟨by simp, nodup_eraseDups _⟩
termination_by xs => xs.length
decreasing_by exact Nat.lt_succ_of_le (List.length_filter_le _ _)

theorem nodup_boundActions (m : Keymap) : m.boundActions.Nodup := nodup_eraseDups _

theorem nodup_helpRows (m : Keymap) : m.helpRows.Nodup := by
  apply m.nodup_boundActions.map
  intro a b hsame
  exact Action.describe_inj (congrArg Prod.snd hsame)

theorem length_helpRows_le (m : Keymap) : m.helpRows.length ≤ Action.all.length := by
  rw [helpRows, List.length_map]
  have hall : m.boundActions ⊆ Action.all := by
    intro action _
    cases action <;> decide
  exact (m.nodup_boundActions.subperm hall).length_le

theorem Housed.mem_boundActions_iff (h : m.Housed) : action ∈ m.boundActions ↔ action ≠ .back := by
  rw [boundActions, List.mem_eraseDups]
  constructor
  · rintro hmem rfl
    obtain ⟨b, hb, hback⟩ := List.mem_map.mp hmem
    obtain ⟨hrecorded, heverywhere⟩ := List.mem_filter.mp hb
    have hhome := h.recorded_home b hrecorded
    rw [of_decide_eq_true heverywhere, hback] at hhome
    cases hhome
  · intro hne
    obtain ⟨b, hb, rfl⟩ := h.recorded_all action
    have heverywhere : b.context = .everywhere := by
      rw [h.recorded_home b hb]
      cases hhome : b.action.home with
      | everywhere => rfl
      | help => exact absurd (Action.eq_back_of_home hhome) hne
    exact List.mem_map_of_mem (List.mem_filter.mpr ⟨hb, decide_eq_true heverywhere⟩)

theorem Housed.length_helpRows (h : m.Housed) : m.helpRows.length = 10 := by
  have hperm : m.boundActions.Perm (Action.all.erase .back) := by
    rw [List.perm_ext_iff_of_nodup m.nodup_boundActions (by decide)]
    intro action
    rw [h.mem_boundActions_iff]
    cases action <;> decide
  rw [helpRows, List.length_map, hperm.length_eq]
  rfl

end Keymap

end FeedReader.Keys
