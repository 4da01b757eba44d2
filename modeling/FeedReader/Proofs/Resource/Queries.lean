import FeedReader.Proofs.Resource.Paths

/-!
# Queries of resources

What is asked of a server is in the query of the address, and is read back from it as it was.
Whatever follows the path of the server's own address is gone.
-/

namespace FeedReader

open Url

namespace Url

def front (u : Url) : List Char :=
  u.scheme ++ ':' :: (u.authority.map fun a => '/' :: '/' :: a.text).getD [] ++
    u.pathGuard ++ u.path

theorem toChars_eq (u : Url) :
    u.toChars = u.front ++ (part '?' u.query ++ part '#' u.fragment) := by
  simp [toChars, front]

theorem IsWeb.isClean_front {u : Url} (h : IsWeb u) : IsClean u.front := by
  obtain ⟨a, hauthority, htext⟩ := h.authority
  have hguard : u.pathGuard = [] := by simp [pathGuard, hauthority]
  have hslashes : IsClean ('/' :: '/' :: a.text) :=
    isClean_cons_of rfl (isClean_cons_of rfl htext)
  rw [front, hguard, hauthority, List.append_nil]
  exact isClean_append.mpr ⟨isClean_append.mpr ⟨isClean_scheme h.kind,
    isClean_cons_of rfl hslashes⟩, h.clean⟩

end Url

namespace Server

variable {server : Server}

theorem OnWeb.rooted_pathTo (h : server.OnWeb) (resource : Resource) :
    Rooted (server.pathTo resource).reverse := by
  have hfold : ∀ (segments : List String) {path : List Char}, Rooted path.reverse →
      Rooted (segments.foldl (pushSegment .special) path).reverse := by
    intro segments
    induction segments with
    | nil => exact fun hpath => hpath
    | cons segment segments ih => exact fun hpath => ih (rooted_pushSegment hpath segment)
  refine hfold _ ?_
  rw [List.reverse_append]
  exact h.directory.rooted.prepend (by decide)

theorem OnWeb.isWeb_endpoint (h : server.OnWeb) {resource : Resource} {query : Option PageQuery}
    {url : Url} (hurl : server.endpoint resource query = .ok url) : IsWeb url := by
  rw [h.endpoint_eq, Except.ok.injEq] at hurl
  subst hurl
  have hrooted := h.rooted_pathTo resource
  exact ⟨h.base.kind, h.base.authority, List.getLast?_reverse.symm.trans hrooted.root,
    hrooted.clean.subset (List.subset_reverse.mpr (.refl _))⟩

end Server

/-! ## What is asked for -/

def PageQuery.wanted : PageQuery → List (String × String)
  | .older none count => [("last", toString count)]
  | .older (some cursor) count => [("last", toString count), ("before", cursor)]
  | .newer none count => [("first", toString count)]
  | .newer (some cursor) count => [("first", toString count), ("after", cursor)]

def Resource.searchPair : Resource → List (String × String)
  | .users (some search) => if search = "" then [] else [("search", search)]
  | _ => []

def Resource.asked (resource : Resource) (query : Option PageQuery) : List (String × String) :=
  resource.searchPair ++ (query.map PageQuery.wanted).getD []

theorem PageQuery.pairs_eq_wanted : PageQuery.pairs = PageQuery.wanted := by
  funext query
  rcases query with ⟨_ | _, _⟩ | ⟨_ | _, _⟩ <;> rfl

theorem Resource.filter_eq_searchPair (resource : Resource) :
    resource.filter = resource.searchPair := by
  rcases resource with _ | _ | _ | (_ | search) | _ | _ <;> try rfl
  simp only [filter, searched, searchPair]
  split <;> rfl

namespace Url

def readPairs (u : Url) : List (String × String) := formPairs (u.query.getD [])

theorem readPairs_withPairs (u : Url) (pairs : List (String × String)) :
    (u.withPairs pairs).readPairs = pairs := by
  rw [readPairs, withPairs]
  split
  · next hempty =>
      rw [List.isEmpty_iff.mp hempty]
      rfl
  · exact formPairs_formQuery pairs

theorem part_withPairs (u : Url) (pairs : List (String × String)) :
    part '?' (u.withPairs pairs).query =
      if pairs = [] then [] else '?' :: formQuery pairs := by
  cases pairs <;> rfl

end Url

namespace Server

/-- The query of an endpoint is read back as what is asked for; if nothing is, there is none. -/
theorem endpoint_query {address : String} {token : Option String} {server : Server}
    (hconnect : connect address token = .ok server) (hkind : server.base.kind = .special)
    (resource : Resource) (query : Option PageQuery) :
    ∃ url, server.endpoint resource query = .ok url ∧
      url.readPairs = resource.asked query ∧
      url.fragment = none ∧ '#' ∉ url.text.toList ∧
      url.text.toList.dropWhile (· ≠ '?') = part '?' url.query ∧
      ('?' ∈ url.text.toList ↔ resource.asked query ≠ []) := by
  have h := onWeb_of_connect hconnect hkind
  have hpairs : resource.filter ++ (query.map PageQuery.pairs).getD [] = resource.asked query := by
    rw [Resource.filter_eq_searchPair, PageQuery.pairs_eq_wanted, Resource.asked]
  have hurl := h.endpoint_eq resource query
  rw [hpairs] at hurl
  obtain ⟨hquestion, hhash⟩ := isClean_iff_not_mem.mp (h.isWeb_endpoint hurl).isClean_front
  refine ⟨_, hurl, readPairs_withPairs _ _, rfl, ?_⟩
  generalize hresult : Url.withPairs { server.base with
    path := server.pathTo resource, query := none, fragment := none } (resource.asked query) = url
    at hquestion hhash ⊢
  have hpart : part '?' url.query =
      if resource.asked query = [] then [] else '?' :: formQuery (resource.asked query) :=
    hresult ▸ part_withPairs _ _
  have htext : url.text.toList = url.front ++ part '?' url.query := by
    have hfragment : url.fragment = none := hresult ▸ rfl
    rw [Url.text, String.toList_ofList, toChars_eq, hfragment]
    exact congrArg _ (List.append_nil _)
  have hkeep : ∀ c ∈ url.front, decide (c ≠ '?') = true := fun c hc =>
    decide_eq_true (ne_of_mem_of_not_mem hc hquestion)
  rw [htext, hpart, List.dropWhile_append_of_pos hkeep]
  split
  · next hnone => simp [hquestion, hhash, hnone]
  · next hsome => simp [hhash, hsome, not_mem_formQuery]

theorem endpoint_query_of_search :
    connect "http://[::1]/s" none = .ok loopback ∧ loopback.base.kind = .special ∧
      ∃ url, loopback.endpoint (.users (some "a&b=c d")) (some (.older (some "é?#") 10)) = .ok url ∧
        url.readPairs = [("search", "a&b=c d"), ("last", "10"), ("before", "é?#")] ∧
        url.fragment = none ∧ '#' ∉ url.text.toList ∧
        url.text.toList.dropWhile (· ≠ '?') = part '?' url.query ∧
        ('?' ∈ url.text.toList ↔
          [("search", "a&b=c d"), ("last", "10"), ("before", "é?#")] ≠ []) :=
  ⟨connect_loopback, by decide, endpoint_query connect_loopback (by decide) _ _⟩

end Server

end FeedReader
