import FeedReader.Proofs.Session.HelpTable

/-!
# Scrolling the help screen

A key that scrolls the help screen moves a stored position, which is cut to the last possible
view only when the screen is drawn.  So what was pressed past the end has to be taken back before
the view moves again.
-/

namespace FeedReader.Session

open FeedReader.Keys (Key Action Keymap)
open FeedReader.Loop (userSession)
open FeedReader.Screen (Rect)

variable {m : Keymap} {limit ceiling : Nat} {keys : List Key}

/-! ## Counters -/

def scrolled (limit count : Nat) : Option Action → Nat
  | some .next => min (count + 1) limit
  | some .prev => count - 1
  | _ => count

def scrollCount (m : Keymap) (limit : Nat) (keys : List Key) : Nat :=
  keys.foldl (fun count key => scrolled limit count (m.action? .help key)) 0

theorem scrollCount_concat (m : Keymap) (limit : Nat) (keys : List Key) (key : Key) :
    scrollCount m limit (keys ++ [key]) =
      scrolled limit (scrollCount m limit keys) (m.action? .help key) :=
  List.foldl_concat ..

theorem min_scrolled_eq_iff (hlimit : limit ≤ ceiling) (count : Nat) (meaning : Option Action) :
    min (scrolled ceiling count meaning) limit = scrolled limit (min count limit) meaning ↔
      limit = 0 ∨ (meaning = some .prev → count ≤ limit) := by
  have hother : meaning ≠ some .prev → (limit = 0 ∨ (meaning = some .prev → count ≤ limit)) :=
    fun hne => .inr fun h => absurd h hne
  rw [scrolled.eq_def, scrolled.eq_def]
  split
  · exact iff_of_true (by omega) (hother (by simp))
  · simp only [forall_const]
    omega
  · next hprev => exact iff_of_true rfl (hother hprev)

theorem forall_prefix_concat_iff {P : List Key → Prop} {key : Key} :
    (∀ pressed, pressed <+: keys ++ [key] → P pressed) ↔
      (∀ pressed, pressed <+: keys → P pressed) ∧ P (keys ++ [key]) := by
  simp only [List.prefix_concat_iff, or_imp, forall_and, forall_eq, and_comm]

theorem forall_concat_prefix_iff {P : List Key → Key → Prop} {key : Key} :
    (∀ pressed last, pressed ++ [last] <+: keys ++ [key] → P pressed last) ↔
      (∀ pressed last, pressed ++ [last] <+: keys → P pressed last) ∧ P keys key := by
  simp only [List.prefix_concat_iff]
  constructor
  · exact fun h => ⟨fun pressed last hpart => h pressed last (.inr hpart), h keys key (.inl rfl)⟩
  · rintro ⟨hearlier, hlast⟩ pressed last (heq | hpart)
    · obtain ⟨rfl, rfl⟩ := List.append_singleton_inj.mp heq
      exact hlast
    · exact hearlier pressed last hpart

theorem min_scrollCount_eq_iff (hlimit : limit ≤ ceiling) (keys : List Key) :
    (∀ pressed, pressed <+: keys →
        min (scrollCount m ceiling pressed) limit = scrollCount m limit pressed) ↔
      limit = 0 ∨ ∀ pressed key, pressed ++ [key] <+: keys → m.action? .help key = some .prev →
        scrollCount m ceiling pressed ≤ limit := by
  induction keys using List.reverseRecOn with
  | nil => simp [scrollCount]
  | append_singleton keys key ih =>
      rw [forall_prefix_concat_iff, forall_concat_prefix_iff, scrollCount_concat,
        scrollCount_concat]
      by_cases hearlier : ∀ pressed, pressed <+: keys →
          min (scrollCount m ceiling pressed) limit = scrollCount m limit pressed
      · rw [← hearlier keys List.prefix_rfl, min_scrolled_eq_iff hlimit]
        tauto
      · tauto

/-! ## Pressing keys -/

def pressAll (s : Session) (keys : List Key) : Session :=
  keys.foldl (fun s key => (s.press key).2) s

theorem pressAll_concat (s : Session) (keys : List Key) (key : Key) :
    s.pressAll (keys ++ [key]) = ((s.pressAll keys).press key).2 :=
  List.foldl_concat ..

theorem press_of_helpShown {s : Session} (hshown : s.helpShown) {key : Key}
    (hstays : s.keymap.action? .help key ≠ some .back) :
    (s.press key).2 = s.withHelpScroll
      (scrolled scrollCeiling s.helpScroll (s.keymap.action? .help key)) := by
  rw [press, if_pos hshown]
  generalize s.keymap.action? .help key = meaning at hstays ⊢
  cases meaning with
  | none => rfl
  | some action =>
      cases action with
      | back => exact absurd rfl hstays
      | _ => rfl

def StaysOpen (m : Keymap) (keys : List Key) : Prop :=
  ∀ key ∈ keys, m.action? .help key ≠ some .back

theorem StaysOpen.earlier {pressed : List Key} (h : StaysOpen m keys)
    (hpart : pressed <+: keys) : StaysOpen m pressed :=
  fun key hkey => h key (hpart.subset hkey)

def withHelpOpened (s : Session) : Session := { s with helpShown := true, helpScroll := 0 }

theorem press_of_showHelp {s : Session} (hclosed : s.helpShown = false) {key : Key}
    (hopens : s.keymap.action? .everywhere key = some .showHelp) :
    (s.press key).2 = s.withHelpOpened := by
  rw [press, hclosed, hopens]
  rfl

theorem pressAll_withHelpOpened {s : Session} (hstays : StaysOpen s.keymap keys) :
    s.withHelpOpened.pressAll keys =
      s.withHelpOpened.withHelpScroll (scrollCount s.keymap scrollCeiling keys) := by
  induction keys using List.reverseRecOn with
  | nil => rfl
  | append_singleton keys key ih =>
      obtain ⟨hearlier, hlast⟩ := List.forall_mem_append.mp hstays
      rw [pressAll_concat, ih hearlier, scrollCount_concat]
      exact press_of_helpShown rfl (hlast key List.mem_cons_self)

theorem helpFirst_pressAll {s : Session} (hstays : StaysOpen s.keymap keys) (overlay : Rect) :
    (s.withHelpOpened.pressAll keys).helpFirst overlay =
      min (scrollCount s.keymap scrollCeiling keys) (s.maxHelpScroll overlay) := by
  rw [pressAll_withHelpOpened hstays]
  rfl

theorem maxHelpScroll_lt_ceiling (s : Session) (overlay : Rect) :
    s.maxHelpScroll overlay < scrollCeiling := by
  have hrows : s.maxHelpScroll overlay ≤ 11 :=
    Nat.le_trans (Nat.sub_le _ _) s.keymap.length_helpRows_le
  exact Nat.lt_of_le_of_lt hrows (by decide)

theorem drawsTable_pressAll {s : Session} (hstays : StaysOpen s.keymap keys)
    {width height : Nat} (hfits : HelpFits width height) (now : Time.Instant) :
    (s.withHelpOpened.pressAll keys).DrawsTable now width height
      ((s.keymap.helpRows.drop
        ((s.withHelpOpened.pressAll keys).helpFirst (helpOverlay width height))).take
          (helpRowsArea (helpOverlay width height)).height) := by
  rw [pressAll_withHelpOpened hstays]
  generalize scrollCount s.keymap scrollCeiling keys = scroll
  have hdraws := drawsTable_of_helpShown (s := s.withHelpOpened.withHelpScroll scroll) rfl now hfits
  rw [helpShownRows_eq] at hdraws
  exact hdraws

theorem helpFirst_eq_scrollCount_iff {s : Session} (hstays : StaysOpen s.keymap keys)
    (overlay : Rect) :
    (∀ pressed, pressed <+: keys → (s.withHelpOpened.pressAll pressed).helpFirst overlay =
        scrollCount s.keymap (s.maxHelpScroll overlay) pressed) ↔
      s.maxHelpScroll overlay = 0 ∨ ∀ pressed last, pressed ++ [last] <+: keys →
        s.keymap.action? .help last = some .prev →
          (s.withHelpOpened.pressAll pressed).helpScroll ≤ s.maxHelpScroll overlay := by
  have hcounters :=
    min_scrollCount_eq_iff (m := s.keymap) (Nat.le_of_lt (s.maxHelpScroll_lt_ceiling overlay)) keys
  refine Iff.trans ?_ (hcounters.trans (or_congr_right ?_))
  · refine forall₂_congr fun pressed hpart => ?_
    rw [helpFirst_pressAll (hstays.earlier hpart)]
  · refine forall₄_congr fun pressed last hpart _ => ?_
    have hearlier := (List.prefix_append pressed [last]).trans hpart
    rw [pressAll_withHelpOpened (hstays.earlier hearlier)]
    rfl

/-! ## Coming back -/

theorem scrollCount_of_next (hnext : ∀ key ∈ keys, m.action? .help key = some .next)
    (limit : Nat) : scrollCount m limit keys = min keys.length limit := by
  induction keys using List.reverseRecOn with
  | nil => exact (Nat.zero_min limit).symm
  | append_singleton keys key ih =>
      obtain ⟨hearlier, hlast⟩ := List.forall_mem_append.mp hnext
      rw [scrollCount_concat, ih hearlier, hlast key List.mem_cons_self, scrolled,
        List.length_append, List.length_singleton]
      omega

theorem staysOpen_of_next (hnext : ∀ key ∈ keys, m.action? .help key = some .next) :
    StaysOpen m keys := by
  intro key hkey
  rw [hnext key hkey]
  decide

theorem StaysOpen.concat_prev (h : StaysOpen m keys) {prev : Key}
    (hprev : m.action? .help prev = some .prev) : StaysOpen m (keys ++ [prev]) := by
  refine List.forall_mem_append.mpr ⟨h, fun key hkey => ?_⟩
  rw [List.mem_singleton.mp hkey, hprev]
  decide

theorem helpFirst_back_iff {s : Session} {prev : Key}
    (hnext : ∀ key ∈ keys, s.keymap.action? .help key = some .next)
    (hprev : s.keymap.action? .help prev = some .prev) (overlay : Rect) (hkeys : keys ≠ [])
    (hlimit : 0 < s.maxHelpScroll overlay) :
    (s.withHelpOpened.pressAll (keys ++ [prev])).helpFirst overlay + 1 =
        (s.withHelpOpened.pressAll keys).helpFirst overlay ↔
      keys.length ≤ s.maxHelpScroll overlay := by
  have hforth := staysOpen_of_next hnext
  rw [helpFirst_pressAll hforth, helpFirst_pressAll (hforth.concat_prev hprev),
    scrollCount_concat, scrollCount_of_next hnext, hprev, scrolled]
  have hlength := List.length_pos_iff.mpr hkeys
  have hceiling := s.maxHelpScroll_lt_ceiling overlay
  omega

/--
An open help screen shows the rows from a stored position on, or from the last row that it may
begin with.  So it follows a counter that stays in these bounds exactly if no key takes the position
back from beyond them; and after some steps forth, one step back is seen exactly if they did not
lead beyond.
-/
theorem help_follows_counter_iff {s : Session} (hclosed : s.helpShown = false) {key : Key}
    (hopens : s.keymap.action? .everywhere key = some .showHelp) {width height : Nat}
    (hfits : HelpFits width height) {keys : List Key} (hstays : StaysOpen s.keymap keys) :
    let overlay := helpOverlay width height
    let limit := s.maxHelpScroll overlay
    let after := fun keys => (s.press key).2.pressAll keys
    (∀ now, (after keys).DrawsTable now width height
      ((s.keymap.helpRows.drop ((after keys).helpFirst overlay)).take
        (helpRowsArea overlay).height)) ∧
    ((∀ pressed, pressed <+: keys →
        (after pressed).helpFirst overlay = scrollCount s.keymap limit pressed) ↔
      limit = 0 ∨ ∀ pressed last, pressed ++ [last] <+: keys →
        s.keymap.action? .help last = some .prev → (after pressed).helpScroll ≤ limit) ∧
    ∀ forth prev, (∀ key ∈ forth, s.keymap.action? .help key = some .next) →
      s.keymap.action? .help prev = some .prev → forth ≠ [] → 0 < limit →
      ((after (forth ++ [prev])).helpFirst overlay + 1 = (after forth).helpFirst overlay ↔
        forth.length ≤ limit) := by
  intro overlay limit after
  have hafter : after = s.withHelpOpened.pressAll := by
    funext keys
    rw [← press_of_showHelp hclosed hopens]
  rw [hafter]
  refine ⟨drawsTable_pressAll hstays hfits, helpFirst_eq_scrollCount_iff hstays overlay, ?_⟩
  intro forth prev hnext hprev hforth hlimit
  exact helpFirst_back_iff hnext hprev overlay hforth hlimit

theorem help_follows_counter_to_the_end :
    let after := fun keys => (userSession.press { code := .char '?' }).2.pressAll keys
    let forth : List Key := List.replicate 4 { code := .char 'j' }
    let prev : Key := { code := .char 'k' }
    userSession.maxHelpScroll (helpOverlay 60 12) = 4 ∧
      (after (forth ++ [prev])).helpFirst (helpOverlay 60 12) + 1 =
        (after forth).helpFirst (helpOverlay 60 12) := by
  intro after forth prev
  have hnext : ∀ key ∈ forth, userSession.keymap.action? .help key = some .next := by decide
  have hopens : userSession.keymap.action? .everywhere { code := .char '?' } = some .showHelp := by
    decide
  have hfits : HelpFits 60 12 := by decide
  obtain ⟨-, -, hback⟩ := help_follows_counter_iff rfl hopens hfits (staysOpen_of_next hnext)
  refine ⟨by decide, ?_⟩
  exact (hback forth prev hnext (by decide) (by decide) (by decide)).mpr (by decide)

/-- With one step more, the step back is not seen. -/
theorem help_view_stuck_at_the_end :
    let after := fun keys => (userSession.press { code := .char '?' }).2.pressAll keys
    let forth : List Key := List.replicate 5 { code := .char 'j' }
    let prev : Key := { code := .char 'k' }
    let overlay := helpOverlay 60 12
    (after forth).helpFirst overlay = 4 ∧ (after (forth ++ [prev])).helpFirst overlay = 4 ∧
      scrollCount userSession.keymap (userSession.maxHelpScroll overlay) (forth ++ [prev]) = 3 ∧
      ¬∀ keys, StaysOpen userSession.keymap keys → (after keys).helpFirst overlay =
        scrollCount userSession.keymap (userSession.maxHelpScroll overlay) keys := by
  intro after forth prev overlay
  have hback : (after (forth ++ [prev])).helpFirst overlay = 4 := by decide
  have hcount :
      scrollCount userSession.keymap (userSession.maxHelpScroll overlay) (forth ++ [prev]) = 3 := by
    decide
  have hnext : ∀ key ∈ forth, userSession.keymap.action? .help key = some .next := by decide
  refine ⟨by decide, hback, hcount, fun hall => ?_⟩
  have hsame := hall (forth ++ [prev]) ((staysOpen_of_next hnext).concat_prev (by decide))
  rw [hback, hcount] at hsame
  exact absurd hsame (by decide)

end FeedReader.Session
