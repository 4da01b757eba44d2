import FeedReader.Proofs.Keys.Rebinding

/-!
# The order of overrides

Settings name overrides in no order.  In whichever order they are applied, the keymap is
the same exactly if no two of them bind in one home, be it two actions or one action to two
keys: the last override in a home is the last line of the help screen, and its key is the
only one that its action keeps.
-/

namespace FeedReader.Keys.Keymap

variable {m m' : Keymap} {context : Context}

/-- Every key means the same, and the help screen says the same. -/
structure Agree (m m' : Keymap) : Prop where
  action?_eq : ∀ context key, m.action? context key = m'.action? context key
  helpRows_eq : m.helpRows = m'.helpRows
  keyFor?_eq : ∀ action, m.keyFor? action = m'.keyFor? action

/-! ## Two keymaps in one context -/

/-- The same bindings are in force in a context, and the same are on record for it. -/
structure SameIn (context : Context) (m m' : Keymap) : Prop where
  inForce : ∀ b : Binding, b.context = context → (b ∈ m.inForce ↔ b ∈ m'.inForce)
  recorded : m.recorded.filter (·.context = context) = m'.recorded.filter (·.context = context)

theorem SameIn.refl (context : Context) (m : Keymap) : SameIn context m m :=
  ⟨fun _ _ => Iff.rfl, rfl⟩

theorem SameIn.trans {m'' : Keymap} (h : SameIn context m m') (h' : SameIn context m' m'') :
    SameIn context m m'' :=
  ⟨fun b hb => (h.inForce b hb).trans (h'.inForce b hb), h.recorded.trans h'.recorded⟩

theorem SameIn.inContext?_eq (h : SameIn context m m') (hm : m.Housed) (hm' : m'.Housed)
    (key : Key) : m.inContext? context key = m'.inContext? context key := by
  apply Option.ext
  intro action
  rw [inContext?_eq_some_iff hm.distinct, inContext?_eq_some_iff hm'.distinct]
  exact h.inForce _ rfl

theorem keysOf_eq (m : Keymap) (action : Action) :
    m.keysOf action =
      ((m.recorded.filter (·.context = .everywhere)).filter (·.action = action)).map
        (·.key.text) := by
  simp only [keysOf, List.filter_filter, Bool.and_comm]

theorem keyFor?_eq_head? (m : Keymap) (action : Action) :
    m.keyFor? action = (m.keysOf action).head? := by
  rw [keyFor?, keysOf, List.head?_map, List.head?_filter]

theorem agree_of_sameIn (hm : m.Housed) (hm' : m'.Housed)
    (h : ∀ context, SameIn context m m') : Agree m m' := by
  have hrecorded := (h .everywhere).recorded
  have hkeys : m.keysOf = m'.keysOf := by
    funext action
    rw [keysOf_eq, keysOf_eq, hrecorded]
  constructor
  · intro context key
    rw [action?, action?, (h context).inContext?_eq hm hm', (h .everywhere).inContext?_eq hm hm']
  · rw [helpRows, helpRows, boundActions, boundActions, hrecorded, hkeys]
  · intro action
    rw [keyFor?_eq_head?, keyFor?_eq_head?, hkeys]

/-! ## One override in one context -/

theorem Housed.sameIn_rebind (h : m.Housed) {action : Action} (hne : action.home ≠ context)
    (key : Key) : SameIn context (m.rebind action key) m where
  inForce := by
    intro b hb
    rw [h.mem_inForce_rebind]
    constructor
    · rintro (rfl | ⟨hmem, -, -⟩)
      · exact absurd hb hne
      · exact hmem
    · intro hmem
      have hhome := h.inForce_home b hmem
      refine .inr ⟨hmem, ?_, ?_⟩
      · rintro rfl
        exact hne (hhome.symm.trans hb)
      · intro hplace
        exact hne ((congrArg Prod.fst hplace).symm.trans hb)
  recorded := by
    rw [h.recorded_rebind, List.filter_append, List.filter_filter,
      List.filter_cons_of_neg (by simpa using hne), List.filter_nil, List.append_nil]
    apply List.filter_congr
    intro b hb
    have hkeep : b.context = context → b.action ≠ action := by
      rintro hcontext rfl
      exact hne ((h.recorded_home b hb).symm.trans hcontext)
    simpa using hkeep

theorem SameIn.rebind (h : SameIn context m m') (hm : m.Housed) (hm' : m'.Housed)
    (action : Action) (key : Key) :
    SameIn context (m.rebind action key) (m'.rebind action key) where
  inForce := by
    intro b hb
    rw [hm.mem_inForce_rebind, hm'.mem_inForce_rebind, h.inForce b hb]
  recorded := by
    rw [hm.recorded_rebind, hm'.recorded_rebind, List.filter_append, List.filter_append,
      List.filter_comm, h.recorded, List.filter_comm]

theorem Housed.sameIn_rebindAll (h : m.Housed) (context : Context)
    (changes : List (Action × Key)) :
    SameIn context (m.rebindAll changes)
      (m.rebindAll (changes.filter (·.1.home = context))) := by
  induction changes using List.reverseRecOn with
  | nil => exact .refl context m
  | append_singleton changes change ih =>
      rw [List.filter_append, rebindAll_concat]
      by_cases hhome : change.1.home = context
      · have hkeep : [change].filter (·.1.home = context) = [change] := by simp [hhome]
        rw [hkeep, rebindAll_concat]
        exact ih.rebind (h.rebindAll _) (h.rebindAll _) change.1 change.2
      · have hdrop : [change].filter (·.1.home = context) = [] := by simp [hhome]
        rw [hdrop, List.append_nil]
        exact ((h.rebindAll changes).sameIn_rebind hhome change.2).trans ih

/-! ## The last override -/

theorem Housed.action?_rebind_eq_some_iff (h : m.Housed) (action : Action) (key pressed : Key) :
    (m.rebind action key).action? action.home pressed = some action ↔
      pressed.normalized = key.normalized := by
  have hdistinct := (h.rebind action key).distinct
  have hmeans : ∀ context, (m.rebind action key).inContext? context pressed.normalized =
      some action → pressed.normalized = key.normalized := by
    intro context hsome
    obtain hnew | ⟨-, hne, -⟩ :=
      h.mem_inForce_rebind.mp ((inContext?_eq_some_iff hdistinct).mp hsome)
    · exact congrArg Binding.key hnew
    · exact absurd rfl hne
  constructor
  · intro hsome
    rw [action?, Option.or_eq_some_iff] at hsome
    obtain hhome | ⟨-, heverywhere⟩ := hsome
    · exact hmeans _ hhome
    · exact hmeans _ heverywhere
  · intro hkey
    have hsome : (m.rebind action key).inContext? action.home pressed.normalized =
        some action := by
      rw [inContext?_eq_some_iff hdistinct, h.mem_inForce_rebind, hkey]
      exact .inl rfl
    rw [action?, hsome, Option.some_or]

theorem Housed.getLast?_helpRows_rebind (h : m.Housed) {action : Action}
    (hhome : action.home = .everywhere) (key : Key) :
    (m.rebind action key).helpRows.getLast?.map Prod.snd = some action.describe := by
  have hbound : (m.rebind action key).boundActions.getLast? = some action := by
    let binding : Binding := ⟨action.home, key.normalized, action⟩
    have hkeep : [binding].filter (·.context = .everywhere) = [binding] := by
      simp [binding, hhome]
    have hlast : [action].removeAll (((m.recorded.filter (·.action ≠ action)).filter
        (·.context = .everywhere)).map Binding.action) = [action] := by
      simp [List.removeAll]
    rw [boundActions, h.recorded_rebind, List.filter_append, hkeep, List.map_append,
      List.map_singleton, List.eraseDups_append, hlast]
    exact List.getLast?_concat
  rw [helpRows, List.getLast?_map, hbound]
  rfl

theorem eq_of_agree_rebind (hm : m.Housed) (hm' : m'.Housed) {action action' : Action}
    {key key' : Key} (hhome : action.home = action'.home)
    (h : Agree (m.rebind action key) (m'.rebind action' key')) :
    action = action' ∧ key.normalized = key'.normalized := by
  obtain rfl : action = action' := by
    cases hcontext : action.home with
    | everywhere =>
        have hrows := congrArg (fun rows => rows.getLast?.map Prod.snd) h.helpRows_eq
        rw [hm.getLast?_helpRows_rebind hcontext,
          hm'.getLast?_helpRows_rebind (hhome.symm.trans hcontext)] at hrows
        exact Action.describe_inj (Option.some_inj.mp hrows)
    | help =>
        rw [Action.eq_back_of_home hcontext,
          Action.eq_back_of_home (hhome.symm.trans hcontext)]
  have hmeans := (hm.action?_rebind_eq_some_iff action key key).mpr rfl
  rw [h.action?_eq] at hmeans
  exact ⟨rfl, (hm'.action?_rebind_eq_some_iff action key' key).mp hmeans⟩

/-! ## All orders -/

/-- In each home the overrides that make sense all bind one action to one key. -/
def Settled (overrides : List (String × String)) : Prop :=
  ∀ change ∈ changes overrides, ∀ change' ∈ changes overrides,
    change.1.home = change'.1.home → change = change'

instance (overrides : List (String × String)) : Decidable (Settled overrides) :=
  inferInstanceAs (Decidable (∀ change ∈ changes overrides, ∀ change' ∈ changes overrides,
    change.1.home = change'.1.home → change = change'))

theorem eq_of_perm_of_all_eq {α : Type} {xs ys : List α} (hperm : xs.Perm ys)
    (hall : ∀ x ∈ xs, ∀ y ∈ xs, x = y) : xs = ys := by
  cases xs with
  | nil => exact hperm.nil_eq
  | cons x xs =>
      have hreplicate : x :: xs = List.replicate (xs.length + 1) x :=
        List.eq_replicate_of_mem fun y hy => hall y hy x List.mem_cons_self
      rw [hreplicate] at hperm ⊢
      exact List.replicate_perm.mp hperm

theorem exists_order_ending {overrides : List (String × String)} {entry : String × String}
    (hmem : entry ∈ overrides) {change : Action × Key} (h : change? entry = some change)
    (m : Keymap) :
    ∃ order : List (String × String), order.Perm overrides ∧ ∃ before,
      (m.applyOverrides order).2 = (m.rebindAll before).rebind change.1 change.2 := by
  refine ⟨overrides.erase entry ++ [entry], ?_, changes (overrides.erase entry), ?_⟩
  · exact (List.perm_append_comm.trans (List.perm_cons_erase hmem).symm)
  · have hlast : changes [entry] = [change] := by
      rw [changes, List.filterMap_cons_some h, List.filterMap_nil]
    rw [applyOverrides_snd, changes_append, hlast, rebindAll_concat]

theorem agree_in_every_order_iff (h : m.Reachable) (overrides : List (String × String)) :
    (∀ order order' : List (String × String), order.Perm overrides → order'.Perm overrides →
        Agree (m.applyOverrides order).2 (m.applyOverrides order').2) ↔
      Settled overrides := by
  constructor
  · intro hagree change hchange change' hchange' hhome
    obtain ⟨entry, hmem, hentry⟩ := mem_changes_iff.mp hchange
    obtain ⟨entry', hmem', hentry'⟩ := mem_changes_iff.mp hchange'
    -- one order ends with the one change and another with the other: the last one is seen
    obtain ⟨order, hperm, before, heq⟩ := exists_order_ending hmem hentry m
    obtain ⟨order', hperm', before', heq'⟩ := exists_order_ending hmem' hentry' m
    have hsame := hagree order order' hperm hperm'
    rw [heq, heq'] at hsame
    obtain ⟨haction, hkey⟩ :=
      eq_of_agree_rebind (h.housed.rebindAll before) (h.housed.rebindAll before') hhome hsame
    rw [normalized_of_change? hentry, normalized_of_change? hentry'] at hkey
    exact Prod.ext haction hkey
  · intro hsettled order order' hperm hperm'
    have hhoused := h.housed
    rw [applyOverrides_snd, applyOverrides_snd]
    apply agree_of_sameIn (hhoused.rebindAll _) (hhoused.rebindAll _)
    intro context
    have hchanges : (changes order).Perm (changes overrides) := hperm.filterMap _
    have hfilter : (changes order).filter (·.1.home = context) =
        (changes order').filter (·.1.home = context) := by
      apply eq_of_perm_of_all_eq ((hchanges.trans (hperm'.filterMap _).symm).filter _)
      intro change hchange change' hchange'
      obtain ⟨hmem, hhome⟩ := List.mem_filter.mp hchange
      obtain ⟨hmem', hhome'⟩ := List.mem_filter.mp hchange'
      exact hsettled change (hchanges.mem_iff.mp hmem) change' (hchanges.mem_iff.mp hmem')
        ((of_decide_eq_true hhome).trans (of_decide_eq_true hhome').symm)
    have hleft := hhoused.sameIn_rebindAll context (changes order)
    have hright := hhoused.sameIn_rebindAll context (changes order')
    rw [hfilter] at hleft
    exact ⟨fun b hb => (hleft.inForce b hb).trans (hright.inForce b hb).symm,
      hleft.recorded.trans hright.recorded.symm⟩

theorem agree_in_every_order_of_two_names :
    Reachable .default ∧
      ∀ order order' : List (String × String),
        order.Perm [("next", "w"), ("Down", " w "), ("back", "F2"), ("jump", "w")] →
        order'.Perm [("next", "w"), ("Down", " w "), ("back", "F2"), ("jump", "w")] →
          Agree (Keymap.default.applyOverrides order).2
            (Keymap.default.applyOverrides order').2 :=
  ⟨.default, (agree_in_every_order_iff .default _).mpr (by decide)⟩

/-- One key for two actions does whichever was bound last. -/
theorem flush_or_quit_by_order :
    (Keymap.default.applyOverrides [("flush", "z"), ("quit", "z")]).2.action? .everywhere
        { code := .char 'z' } = some .quit ∧
      (Keymap.default.applyOverrides [("quit", "z"), ("flush", "z")]).2.action? .everywhere
        { code := .char 'z' } = some .flush ∧
      ¬ ∀ order order' : List (String × String),
          order.Perm [("flush", "z"), ("quit", "z")] →
          order'.Perm [("flush", "z"), ("quit", "z")] →
            Agree (Keymap.default.applyOverrides order).2
              (Keymap.default.applyOverrides order').2 := by
  have hquit : (Keymap.default.applyOverrides [("flush", "z"), ("quit", "z")]).2.action?
      .everywhere { code := .char 'z' } = some .quit := by decide
  have hflush : (Keymap.default.applyOverrides [("quit", "z"), ("flush", "z")]).2.action?
      .everywhere { code := .char 'z' } = some .flush := by decide
  refine ⟨hquit, hflush, fun hagree => ?_⟩
  have hsame := (hagree _ _ (.refl _) (.swap _ _ _)).action?_eq .everywhere { code := .char 'z' }
  rw [hquit, hflush] at hsame
  cases hsame

end FeedReader.Keys.Keymap
