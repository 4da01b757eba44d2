import FeedReader.Proofs.Outcomes
import FeedReader.Proofs.Url.Host
import FeedReader.Url.Basic

/-!
# Web addresses that are read

A web address has an authority and a path from the root, and neither holds a mark that would
end the path.
-/

namespace FeedReader.Url

/-- The address of something on the web, with nothing in its front that begins a query. -/
structure IsWeb (u : Url) : Prop where
  kind : u.kind = .special
  authority : ∃ a, u.authority = some a ∧ IsClean a.text
  root : u.path.head? = some '/'
  clean : IsClean u.path

/-! ## Authorities -/

theorem readAuthority_eq_ok {scheme s rest : List Char} {atEnd : Bool} {a : Authority}
    (hkind : SchemeKind.of scheme = .special)
    (h : readAuthority scheme s atEnd = .ok (a, rest)) :
    ∃ username password name host, a.username = percentEncode inUserinfo username ∧
      a.password = percentEncode inUserinfo password ∧ Host.parse name = .ok host ∧
      (a.host = none ∨ a.host = some host) := by
  have hspecial : SchemeKind.special.isSpecial = true := rfl
  have hkept : ∀ host : Host, (if host = .domain [] then none else some host) = none ∨
      (if host = .domain [] then none else some host) = some host := by
    intro host
    split
    · exact .inl rfl
    · exact .inr rfl
  cases hsplit : splitUserinfo s
  all_goals
    simp only [readAuthority, hkind, hspecial, hsplit, if_true, bind, Except.bind, pure,
      Except.pure, throw, throwThe, MonadExceptOf.throw] at h
    replace h := (ok_of_guard h).2
    replace h := (ok_of_guard h).2
    obtain ⟨host, hhost, h⟩ := ok_of_bind h
    replace h := (ok_of_guard h).2
    split at h
    · obtain ⟨port, -, h⟩ := ok_of_bind h
      replace h := (ok_of_guard h).2
      cases h
      exact ⟨_, _, _, host, rfl, rfl, hhost, hkept host⟩
    · replace h := (ok_of_guard h).2
      cases h
      exact ⟨_, _, _, host, rfl, rfl, hhost, hkept host⟩

theorem isClean_cons_of {c : Char} {s : List Char} (hc : isTailMark c = false) (h : IsClean s) :
    IsClean (c :: s) :=
  isClean_cons.mpr ⟨hc, h⟩

theorem Authority.isClean_text {scheme s rest : List Char} {atEnd : Bool} {a : Authority}
    (hkind : SchemeKind.of scheme = .special)
    (h : readAuthority scheme s atEnd = .ok (a, rest)) : IsClean a.text := by
  obtain ⟨username, password, name, host, husername, hpassword, hhost, hname⟩ :=
    readAuthority_eq_ok hkind h
  have hescape : ∀ s, IsClean (percentEncode inUserinfo s) :=
    isClean_percentEncode (by decide) (by decide)
  have huserinfo : IsClean a.userinfo := by
    rw [userinfo, husername, hpassword]
    split
    · exact isClean_nil
    · refine isClean_append.mpr
        ⟨isClean_append.mpr ⟨hescape _, ?_⟩, isClean_cons_of rfl isClean_nil⟩
      split
      · exact isClean_nil
      · exact isClean_cons_of rfl (hescape _)
  have hhostText : IsClean ((a.host.map Host.text).getD []) := by
    obtain hname | hname := hname <;> rw [hname]
    · exact isClean_nil
    · exact Host.isClean_text hhost
  have hport : IsClean ((a.port.map fun p => ':' :: (toString p).toList).getD []) := by
    cases a.port with
    | none => exact isClean_nil
    | some port => exact isClean_cons_of rfl (isClean_repr port)
  exact isClean_append.mpr ⟨isClean_append.mpr ⟨huserinfo, hhostText⟩, hport⟩

/-! ## Reading -/

theorem isWeb_of_afterSlashes {scheme s : List Char} {u : Url}
    (hkind : SchemeKind.of scheme = .special) (h : afterSlashes scheme s = .ok u) : IsWeb u := by
  have hspecial : SchemeKind.special.isSpecial = true := rfl
  simp only [afterSlashes, hkind, hspecial, if_true, bind, Except.bind, pure, Except.pure] at h
  obtain ⟨⟨a, leftover⟩, hread, h⟩ := ok_of_bind h
  cases h
  have hroot : Rooted ['/'].reverse := ⟨rfl, isClean_cons_of rfl isClean_nil⟩
  have hpath := rooted_readPath hroot
  refine ⟨hkind, ⟨a, rfl, Authority.isClean_text hkind hread⟩, ?_, ?_⟩
  · exact List.getLast?_reverse.symm.trans (hpath _).root
  · exact (hpath _).clean.subset (List.subset_reverse.mpr (.refl _))

def HasScheme (scheme : List Char) (read : Except UrlError Url) : Prop :=
  ∀ u, read = .ok u → u.scheme = scheme

theorem hasScheme_ok {scheme : List Char} {u : Url} (h : u.scheme = scheme) :
    HasScheme scheme (.ok u) := by
  rintro _ ⟨⟩
  exact h

theorem hasScheme_map {α : Type} {scheme : List Char} {f : α → Url}
    (h : ∀ a, (f a).scheme = scheme) {x : Except UrlError α} : HasScheme scheme (x.map f) := by
  cases x with
  | error e => exact fun _ h => nomatch h
  | ok a => exact hasScheme_ok (h a)

theorem hasScheme_fileAfterSlashes (s : List Char) :
    HasScheme "file".toList (fileAfterSlashes s) := by
  rw [fileAfterSlashes]
  split
  · exact hasScheme_ok rfl
  · split
    · exact hasScheme_ok rfl
    · refine hasScheme_map fun host => ?_
      split <;> rfl

theorem hasScheme_readFile (s : List Char) : HasScheme "file".toList (readFile s) := by
  rw [readFile]
  split
  · split
    · split
      · split
        · exact hasScheme_fileAfterSlashes _
        · exact hasScheme_ok rfl
      · exact hasScheme_ok rfl
    · exact hasScheme_ok rfl
  · exact hasScheme_ok rfl

theorem hasScheme_afterSlashes (scheme s : List Char) :
    HasScheme scheme (afterSlashes scheme s) := by
  intro u h
  obtain ⟨found, -, h⟩ := ok_of_bind h
  cases h
  rfl

theorem isWeb_of_parse {address : String} {u : Url} (h : parse address = .ok u)
    (hkind : u.kind = .special) : IsWeb u := by
  rw [parse] at h
  split at h
  · cases h
  next scheme rest _ =>
  split at h
  · rw [Url.kind, hasScheme_readFile _ _ h] at hkind
    exact absurd hkind (by decide)
  · next hspecial => exact isWeb_of_afterSlashes hspecial h
  · next hother =>
      have hscheme : u.scheme = scheme := by
        split at h
        · exact hasScheme_afterSlashes _ _ _ h
        · exact hasScheme_ok rfl _ h
        · exact hasScheme_ok rfl _ h
      rw [Url.kind, hscheme, hother] at hkind
      cases hkind

/-! ## Directories -/

theorem isClean_scheme {u : Url} (h : u.kind = .special) : IsClean u.scheme := by
  have hclean : ∀ scheme ∈ ["http", "https", "ws", "wss", "ftp"], IsClean scheme.toList := by
    decide
  have hmem : ["http", "https", "ws", "wss", "ftp"].contains (String.ofList u.scheme) = true := by
    rw [Url.kind, SchemeKind.of] at h
    grind
  have hscheme := hclean _ (List.contains_iff_mem.mp hmem)
  rwa [String.toList_ofList] at hscheme

theorem asDirectory_front (u : Url) :
    u.asDirectory.scheme = u.scheme ∧ u.asDirectory.authority = u.authority := by
  rw [Url.asDirectory]
  split
  · exact ⟨rfl, rfl⟩
  · split <;> exact ⟨rfl, rfl⟩

theorem IsWeb.asDirectory {u : Url} (h : IsWeb u) :
    IsWeb u.asDirectory ∧ IsDirectory u.asDirectory.path := by
  have hdirectory := isDirectory_asDirectory h.kind h.root h.clean
  obtain ⟨hscheme, hauthority⟩ := asDirectory_front u
  refine ⟨⟨?_, ?_, hdirectory.root, hdirectory.clean⟩, hdirectory⟩
  · rw [Url.kind, hscheme]
    exact h.kind
  · rw [hauthority]
    exact h.authority

end FeedReader.Url
