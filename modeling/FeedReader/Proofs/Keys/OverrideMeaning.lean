import FeedReader.Proofs.Keys.Rebinding

/-!
# What keys mean after overrides

Overrides that name different actions and different keys do not get in each other's way.  Whichever
is applied first, each gives its action the one key it names, wherever that action is bound; a
default key keeps its meaning unless its action was overridden or the key was given away.
-/

namespace FeedReader.Keys.Keymap

variable {m : Keymap} {context : Context} {key : Key} {action : Action}
  {changes' : List (Action × Key)}

/-! ## Overrides that make no sense -/

def makesSense (entry : String × String) : Bool := (change? entry).isSome

theorem applyOverrides_fst (m : Keymap) (overrides : List (String × String)) :
    (m.applyOverrides overrides).1 =
      (overrides.filter fun entry => !makesSense entry).map warningOf := by
  induction overrides using List.reverseRecOn with
  | nil => rfl
  | append_singleton overrides entry ih =>
      rw [applyOverrides_concat, List.filter_append, List.map_append, ← ih]
      cases hchange : change? entry <;> simp [makesSense, hchange]

theorem changes_filter_makesSense (overrides : List (String × String)) :
    changes (overrides.filter makesSense) = changes overrides := by
  rw [changes, List.filterMap_filter]
  apply List.filterMap_congr
  intro entry _
  cases hchange : change? entry <;> simp [makesSense, hchange]

/-! ## What the changes say -/

/-- The action that a change gives the key, if it is bound in the context by default. -/
def given? (changes : List (Action × Key)) (context : Context) (key : Key) : Option Action :=
  (changes.find? fun change => context ∈ default.contexts change.1 && change.2 = key).map Prod.fst

/-- The action that the key has by default, if no change is about it. -/
def kept? (changes : List (Action × Key)) (context : Context) (key : Key) : Option Action :=
  (default.inContext? context key).filter fun action => changes.all fun change => change.1 ≠ action

def meaning? (changes : List (Action × Key)) (context : Context) (key : Key) : Option Action :=
  (given? changes context key).or (kept? changes context key)

/-- No two changes are about one action, and no two about one key. -/
structure Apart (changes : List (Action × Key)) : Prop where
  actions : (changes.map Prod.fst).Nodup
  keys : (changes.map Prod.snd).Nodup

theorem Apart.perm (h : Apart changes') {changes : List (Action × Key)}
    (hperm : changes.Perm changes') : Apart changes :=
  ⟨(hperm.map _).nodup_iff.mpr h.actions, (hperm.map _).nodup_iff.mpr h.keys⟩

theorem Apart.of_concat {changes : List (Action × Key)} {last : Action × Key}
    (h : Apart (changes ++ [last])) :
    Apart changes ∧ ∀ change ∈ changes, change.1 ≠ last.1 ∧ change.2 ≠ last.2 := by
  obtain ⟨hactions, hkeys⟩ := h
  rw [List.map_append, List.nodup_append] at hactions hkeys
  refine ⟨⟨hactions.1, hkeys.1⟩, fun change hmem => ⟨?_, ?_⟩⟩
  · exact hactions.2.2 _ (List.mem_map_of_mem hmem) _ List.mem_cons_self
  · exact hkeys.2.2 _ (List.mem_map_of_mem hmem) _ List.mem_cons_self

theorem mem_contexts_default : context ∈ default.contexts action ↔ action.home = context := by
  rw [housed_default.contexts_eq, List.mem_singleton, eq_comm]

theorem given?_eq_none_iff {changes : List (Action × Key)} :
    given? changes context key = none ↔
      ∀ change ∈ changes, change.1.home = context → change.2 ≠ key := by
  rw [given?, Option.map_eq_none_iff, List.find?_eq_none]
  simp [mem_contexts_default]

theorem Apart.given?_eq_some_iff {changes : List (Action × Key)} (h : Apart changes) :
    given? changes context key = some action ↔
      (action, key) ∈ changes ∧ action.home = context := by
  constructor
  · intro hgiven
    obtain ⟨⟨action, key'⟩, hfind, rfl⟩ := Option.map_eq_some_iff.mp hgiven
    have hfound := List.find?_some hfind
    rw [Bool.and_eq_true, decide_eq_true_eq, decide_eq_true_eq, mem_contexts_default] at hfound
    obtain ⟨hhome, rfl⟩ := hfound
    exact ⟨List.mem_of_find?_eq_some hfind, hhome⟩
  · rintro ⟨hmem, hhome⟩
    cases hgiven : given? changes context key with
    | none => exact absurd rfl (given?_eq_none_iff.mp hgiven _ hmem hhome)
    | some other =>
        obtain ⟨⟨other, key'⟩, hfind, rfl⟩ := Option.map_eq_some_iff.mp hgiven
        have hfound := List.find?_some hfind
        rw [Bool.and_eq_true, decide_eq_true_eq, decide_eq_true_eq] at hfound
        have hsame := List.inj_on_of_nodup_map h.keys (List.mem_of_find?_eq_some hfind) hmem
          hfound.2
        rw [hsame]

theorem kept?_eq_some_iff {changes : List (Action × Key)} :
    kept? changes context key = some action ↔
      ⟨context, key, action⟩ ∈ default.inForce ∧ ∀ change ∈ changes, change.1 ≠ action := by
  rw [kept?, Option.filter_eq_some_iff, inContext?_eq_some_iff housed_default.distinct,
    List.all_eq_true]
  simp only [decide_eq_true_eq]

theorem Apart.meaning?_eq_some_iff {changes : List (Action × Key)} (h : Apart changes) :
    meaning? changes context key = some action ↔
      (action, key) ∈ changes ∧ action.home = context ∨
        ⟨context, key, action⟩ ∈ default.inForce ∧ (∀ change ∈ changes, change.1 ≠ action) ∧
          ∀ change ∈ changes, change.1.home = context → change.2 ≠ key := by
  rw [meaning?, Option.or_eq_some_iff, h.given?_eq_some_iff, given?_eq_none_iff, kept?_eq_some_iff]
  tauto

/-! ## Any number of changes -/

theorem Housed.mem_inForce_rebindAll (h : m.Housed) {changes : List (Action × Key)}
    (hapart : Apart changes) (hnormal : ∀ change ∈ changes, change.2.normalized = change.2) :
    ⟨context, key, action⟩ ∈ (m.rebindAll changes).inForce ↔
      (action, key) ∈ changes ∧ action.home = context ∨
        ⟨context, key, action⟩ ∈ m.inForce ∧ (∀ change ∈ changes, change.1 ≠ action) ∧
          ∀ change ∈ changes, change.1.home = context → change.2 ≠ key := by
  induction changes using List.reverseRecOn with
  | nil => simp
  | append_singleton changes last ih =>
      obtain ⟨hrest, hlast⟩ := hapart.of_concat
      obtain ⟨hnormals, hlastNormal⟩ := List.forall_mem_append.mp hnormal
      rw [rebindAll_concat, (h.rebindAll changes).mem_inForce_rebind, ih hrest hnormals,
        hlastNormal last List.mem_cons_self]
      obtain ⟨changed, new⟩ := last
      have hkept : (action, key) ∈ changes → action ≠ changed ∧ key ≠ new := hlast (action, key)
      simp only [Binding.place, Binding.mk.injEq, List.mem_append, List.mem_singleton,
        Prod.mk.injEq, or_imp, forall_and, forall_eq, ne_eq]
      have hhome : action = changed → action.home = changed.home := congrArg _
      grind

theorem inContext?_rebindAll_default {changes : List (Action × Key)} (hapart : Apart changes)
    (hnormal : ∀ change ∈ changes, change.2.normalized = change.2) :
    (default.rebindAll changes).inContext? context key = meaning? changes context key := by
  apply Option.ext
  intro action
  rw [inContext?_eq_some_iff (housed_default.rebindAll changes).distinct,
    housed_default.mem_inForce_rebindAll hapart hnormal, hapart.meaning?_eq_some_iff]

theorem meaning?_perm {changes : List (Action × Key)} (hapart : Apart changes')
    (hperm : changes.Perm changes') : meaning? changes = meaning? changes' := by
  funext context key
  apply Option.ext
  intro action
  rw [(hapart.perm hperm).meaning?_eq_some_iff, hapart.meaning?_eq_some_iff]
  simp only [hperm.mem_iff]

theorem action?_shift (m : Keymap) (context : Context) {c : Char} (hc : key.code = .char c)
    (shift : Bool) : m.action? context { key with shift } = m.action? context key := by
  obtain ⟨code, ctrl, shift', alt⟩ := key
  subst hc
  rfl

/--
In whatever order such overrides are applied, each of the others is warned about once and changes
nothing.  A key means the action it was given, if that one is bound in the context; else its default
action there, if that one was not overridden; else what it means everywhere in these two ways.
-/
theorem meaning_of_overrides_apart {overrides : List (String × String)}
    (hapart : Apart (changes overrides)) {order : List (String × String)}
    (horder : order.Perm overrides) :
    (default.applyOverrides order).1 =
        (order.filter fun entry => !makesSense entry).map warningOf ∧
      (default.applyOverrides order).2 =
        (default.applyOverrides (order.filter makesSense)).2 ∧
      (∀ context key, (default.applyOverrides order).2.action? context key =
        (meaning? (changes overrides) context key.normalized).or
          (meaning? (changes overrides) .everywhere key.normalized)) ∧
      ∀ context (key : Key) c shift, key.code = .char c →
        (default.applyOverrides order).2.action? context { key with shift } =
          (default.applyOverrides order).2.action? context key := by
  have hperm : (changes order).Perm (changes overrides) := horder.filterMap _
  have hnormal : ∀ change ∈ changes order, change.2.normalized = change.2 := by
    intro change hchange
    obtain ⟨entry, -, hentry⟩ := mem_changes_iff.mp hchange
    exact normalized_of_change? hentry
  refine ⟨applyOverrides_fst default order, ?_, fun context key => ?_, ?_⟩
  · rw [applyOverrides_snd, applyOverrides_snd, changes_filter_makesSense]
  · rw [applyOverrides_snd, action?, inContext?_rebindAll_default (hapart.perm hperm) hnormal,
      inContext?_rebindAll_default (hapart.perm hperm) hnormal, meaning?_perm hapart hperm]
  · exact fun context key c shift hc => action?_shift _ context hc shift

theorem meaning_of_swapped_keys :
    let overrides := [("quit", "n"), ("jump", "w"), ("Back", "F2"), ("flush", "q"),
      ("more", "Hyper+m")]
    let m := default.applyOverrides overrides.reverse
    Apart (changes overrides) ∧ overrides.reverse.Perm overrides ∧
      m.1 = [.unknownKey "Hyper+m" "more", .unknownAction "jump"] ∧
      m.2.action? .help { code := .char 'q' } = some .flush ∧
      m.2.action? .help { code := .char 'n', shift := true } = some .quit ∧
      m.2.action? .help { code := .function 2, shift := true } = none ∧
      m.2.action? .everywhere { code := .char 'm' } = some .loadMore := by
  intro overrides m
  have hapart : Apart (changes overrides) := ⟨by decide, by decide⟩
  have hperm : overrides.reverse.Perm overrides := List.reverse_perm overrides
  obtain ⟨hwarnings, -, hmeaning, -⟩ := meaning_of_overrides_apart hapart hperm
  refine ⟨hapart, hperm, hwarnings.trans (by decide), ?_, ?_, ?_, ?_⟩
  all_goals
    rw [hmeaning]
    decide

end FeedReader.Keys.Keymap
