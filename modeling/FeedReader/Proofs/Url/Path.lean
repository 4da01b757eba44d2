import FeedReader.Proofs.Url.Encoding
import FeedReader.Url.Basic
import Mathlib.Data.List.Induction

/-!
# Paths of web addresses

A path that is read begins with a slash and has no mark that would end it.  Appended
segments stand in it as they are, escaped; but a lone dot or double dot is left out, and a
segment that is one once its tabs and line ends are dropped adds an empty segment, or takes
the one before it away.
-/

namespace FeedReader.Url

open Text (encode encodeChar)

/-! ## Marks that end a path -/

def IsClean (s : List Char) : Prop := ∀ c ∈ s, isTailMark c = false

instance (s : List Char) : Decidable (IsClean s) := List.decidableBAll _ _

theorem isClean_nil : IsClean [] := List.forall_mem_nil _

theorem isClean_cons {c : Char} {s : List Char} :
    IsClean (c :: s) ↔ isTailMark c = false ∧ IsClean s :=
  List.forall_mem_cons

theorem isClean_append {s t : List Char} : IsClean (s ++ t) ↔ IsClean s ∧ IsClean t :=
  List.forall_mem_append

theorem IsClean.subset {s t : List Char} (h : IsClean t) (hsub : s ⊆ t) : IsClean s :=
  fun c hc => h c (hsub hc)

theorem isClean_iff_not_mem {s : List Char} : IsClean s ↔ '?' ∉ s ∧ '#' ∉ s := by
  have hmark : ∀ c, isTailMark c = false ↔ c ≠ '?' ∧ c ≠ '#' := by simp [isTailMark]
  constructor
  · exact fun h =>
      ⟨fun hc => ((hmark _).mp (h _ hc)).1 rfl, fun hc => ((hmark _).mp (h _ hc)).2 rfl⟩
  · rintro ⟨hquestion, hhash⟩ c hc
    exact (hmark c).mpr ⟨ne_of_mem_of_not_mem hc hquestion, ne_of_mem_of_not_mem hc hhash⟩

theorem isClean_percentEncode {escaped : Char → Bool} (hquery : escaped '?' = true)
    (hfragment : escaped '#' = true) (s : List Char) : IsClean (percentEncode escaped s) :=
  isClean_iff_not_mem.mpr ⟨not_mem_percentEncode hquery (by decide) (by decide) s,
    not_mem_percentEncode hfragment (by decide) (by decide) s⟩

/-! ## Reading a path -/

theorem getLast?_dropWhile {s : List Char} {p : Char → Bool} {c : Char}
    (h : s.getLast? = some c) (hc : p c = false) : (s.dropWhile p).getLast? = some c := by
  obtain ⟨front, rfl⟩ := List.getLast?_eq_some_iff.mp h
  rw [List.dropWhile_append]
  split
  · rw [List.dropWhile_cons_of_neg (by simp [hc]), List.getLast?_singleton]
  · exact List.getLast?_concat

theorem getLast?_cons_of_some {s : List Char} {c : Char} (h : s.getLast? = some c) (d : Char) :
    (d :: s).getLast? = some c := by
  rw [List.getLast?_cons, h, Option.getD_some]

structure Rooted (path : List Char) : Prop where
  root : path.getLast? = some '/'
  clean : IsClean path

theorem Rooted.push {path : List Char} (h : Rooted path) : Rooted ('/' :: path) :=
  ⟨getLast?_cons_of_some h.root '/', isClean_cons.mpr ⟨rfl, h.clean⟩⟩

theorem Rooted.shorten {path : List Char} (h : Rooted path) :
    Rooted (shorten .special path) :=
  ⟨getLast?_dropWhile h.root (by simp), h.clean.subset (List.dropWhile_sublist _).subset⟩

theorem Rooted.drop {path : List Char} (h : Rooted path) (hmay : mayDropSlash path = true) :
    Rooted (path.drop 1) := by
  refine ⟨?_, h.clean.subset (List.drop_subset 1 _)⟩
  have hroot := h.root
  rw [mayDropSlash.eq_def] at hmay
  split at hmay
  · next before =>
      cases before with
      | nil => cases hmay
      | cons c before => rwa [List.getLast?_cons_cons] at hroot
  · cases hmay

theorem Rooted.prepend {path segment : List Char} (h : Rooted path) (hsegment : IsClean segment) :
    Rooted (segment.reverse ++ path) := by
  constructor
  · rw [List.getLast?_append, h.root, Option.some_or]
  · exact isClean_append.mpr ⟨hsegment.subset (List.reverse_subset.mpr (.refl _)), h.clean⟩

namespace PathState

theorem rooted_append {st : PathState} (h : Rooted st.path) {segment : List Char}
    (hsegment : IsClean segment) (closed : Bool) : Rooted (st.append segment closed).path := by
  simp only [append]
  split
  · exact (h.prepend hsegment).push
  · exact h.prepend hsegment

theorem rooted_add {st : PathState} (h : Rooted st.path) {segment : List Char}
    (hsegment : IsClean segment) (closed : Bool) :
    Rooted (st.add .special segment closed).path := by
  rw [PathState.add]
  split
  · have hshort : Rooted (shorten .special
        (if mayDropSlash st.path then st.path.drop 1 else st.path)) := by
      split
      · next hmay => exact (h.drop hmay).shorten
      · exact h.shorten
    generalize shorten .special _ = path at hshort ⊢
    dsimp only
    split
    · exact hshort.push
    · exact hshort
  · split
    · split
      · exact h
      · exact h.push
    · rw [if_neg (by simp)]
      exact rooted_append h hsegment closed

theorem rooted_read {st : PathState} (h : Rooted st.path) (segment : List Char) (closed : Bool) :
    Rooted (st.read .special segment closed).path :=
  rooted_add h (isClean_percentEncode (by decide) (by decide) _) closed

theorem rooted_foldl {st : PathState} (h : Rooted st.path) (segments : List (List Char)) :
    Rooted (segments.foldl (fun st segment => st.read .special segment true) st).path := by
  induction segments generalizing st with
  | nil => exact h
  | cons segment segments ih => exact ih (rooted_read h segment true)

theorem readAll_concat (kind : SchemeKind) (st : PathState) (segments : List (List Char))
    (last : List Char) :
    st.readAll kind (segments ++ [last]) =
      (segments.foldl (fun st segment => st.read kind segment true) st).read kind last false := by
  induction segments generalizing st with
  | nil => rfl
  | cons segment segments ih =>
      rw [List.cons_append, readAll, ih, List.foldl_cons]
      exact fun h => List.append_ne_nil_of_right_ne_nil _ (List.cons_ne_nil _ _) h

theorem rooted_readAll {st : PathState} (h : Rooted st.path) (segments : List (List Char)) :
    Rooted (st.readAll .special segments).path := by
  cases segments using List.reverseRecOn with
  | nil => exact h
  | append_singleton segments last =>
      rw [readAll_concat]
      exact rooted_read (rooted_foldl h segments) last false

theorem endsWithSlash_read (st : PathState) (segment : List Char) :
    endsWithSlash (st.read .special segment true).path = true := by
  have hadd : ∀ escaped, endsWithSlash (st.add .special escaped true).path = true := by
    intro escaped
    rw [PathState.add]
    split
    · generalize shorten .special _ = path
      dsimp only
      split
      · rfl
      · next hends => simpa using hends
    · split
      · split
        · assumption
        · rfl
      · rw [if_neg (by simp)]
        rfl
  exact hadd _

end PathState

theorem splitPath_ne_nil (kind : SchemeKind) (s : List Char) : splitPath kind s ≠ [] := by
  cases s with
  | nil => exact List.cons_ne_nil _ _
  | cons c s =>
      rw [splitPath, List.foldr_cons]
      split
      · exact List.cons_ne_nil _ _
      · split <;> exact List.cons_ne_nil _ _

theorem splitPath_concat {kind : SchemeKind} {c : Char} (hc : isSeparator kind c = true)
    (s : List Char) : splitPath kind (s ++ [c]) = splitPath kind s ++ [[]] := by
  induction s with
  | nil => simp [splitPath, hc]
  | cons d s ih =>
      rw [List.cons_append, splitPath, List.foldr_cons, ← splitPath, ih]
      conv_rhs => rw [splitPath, List.foldr_cons, ← splitPath]
      split
      · rfl
      · cases hsplit : splitPath kind s with
        | nil => exact absurd hsplit (splitPath_ne_nil kind s)
        | cons piece pieces => rfl

theorem rooted_readPath {root : List Char} (h : Rooted root.reverse) (s : List Char) :
    Rooted (readPath .special root s).1.reverse := by
  let st : PathState := { path := root.reverse }
  have hread : Rooted (st.readAll .special (splitPath .special s)).path :=
    PathState.rooted_readAll h _
  rw [readPath]
  simpa [singleRoot] using hread

/-- The path of a directory: it begins and ends with a slash, and nothing in it ends it. -/
structure IsDirectory (path : List Char) : Prop where
  root : path.head? = some '/'
  closed : path.getLast? = some '/'
  clean : IsClean path

theorem Rooted.isDirectory {path : List Char} (h : Rooted path)
    (hclosed : endsWithSlash path = true) : IsDirectory path.reverse := by
  constructor
  · rw [List.head?_reverse, h.root]
  · rw [List.getLast?_reverse]
    exact of_decide_eq_true hclosed
  · exact h.clean.subset (List.reverse_subset.mpr (.refl _))

theorem IsDirectory.rooted {path : List Char} (h : IsDirectory path) : Rooted path.reverse :=
  ⟨List.getLast?_reverse.trans h.root, h.clean.subset (List.reverse_subset.mpr (.refl _))⟩

theorem isDirectory_readPath (s : List Char) :
    IsDirectory (readPath .special [] ('/' :: s ++ ['/'])).1 := by
  let front := (splitPath .special s).foldl
    (fun st segment => PathState.read .special st segment true) { path := ['/'] }
  have hrooted : Rooted front.path :=
    PathState.rooted_foldl ⟨rfl, isClean_cons.mpr ⟨rfl, isClean_nil⟩⟩ _
  have hclosed : endsWithSlash front.path = true := by
    cases hsplit : splitPath .special s using List.reverseRecOn with
    | nil => exact absurd hsplit (splitPath_ne_nil _ s)
    | append_singleton pieces last =>
        simp only [front, hsplit, List.foldl_append, List.foldl_cons, List.foldl_nil]
        exact PathState.endsWithSlash_read _ last
  have hread : (readPath .special [] ('/' :: s ++ ['/'])).1 = front.path.reverse := by
    have hpieces : splitPath .special ('/' :: s ++ ['/']) =
        ([] :: splitPath .special s) ++ [[]] := splitPath_concat rfl ('/' :: s)
    simp only [readPath, hpieces, PathState.readAll_concat, List.foldl_cons]
    rfl
  rw [hread]
  exact hrooted.isDirectory hclosed

theorem isDirectory_asDirectory {u : Url} (hkind : u.kind = .special)
    (hroot : u.path.head? = some '/') (hclean : IsClean u.path) :
    IsDirectory u.asDirectory.path := by
  rw [Url.asDirectory]
  split
  · next hclosed => exact ⟨hroot, hclosed, hclean⟩
  · have hflat : ¬u.isFlat = true := by simp [Url.isFlat, hroot]
    rw [if_neg hflat, hkind]
    obtain ⟨s, hs⟩ := List.head?_eq_some_iff.mp hroot
    rw [hs]
    exact isDirectory_readPath s

end FeedReader.Url
