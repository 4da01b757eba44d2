import Mathlib.Data.List.Basic
import FeedReader.Proofs.Url.Addresses
import FeedReader.Proofs.Url.Segments
import FeedReader.Resource.Endpoint

/-!
# Paths of resources

A resource is found in the folder `api` of the server, one segment of the path for each of its
steps.  A step that is a lone dot or double dot, or has tabs or line ends in it, is not in the
path as it is, and the path is then that of another resource too.
-/

namespace FeedReader

open Url

/-! ## Servers on the web -/

/-- A server on the web: what is asked of it lies below a directory. -/
structure Server.OnWeb (server : Server) : Prop where
  base : IsWeb server.base
  directory : IsDirectory server.base.path

namespace Server

theorem onWeb_of_connect {address : String} {token : Option String} {server : Server}
    (h : connect address token = .ok server) (hkind : server.base.kind = .special) :
    server.OnWeb := by
  obtain ⟨url, hparse, rfl⟩ := ok_of_map h
  have hkind' : url.kind = .special := by
    rw [Url.kind, (asDirectory_front url).1] at hkind
    exact hkind
  obtain ⟨hweb, hdirectory⟩ := (isWeb_of_parse hparse hkind').asDirectory
  exact ⟨hweb, hdirectory⟩

def pathTo (server : Server) (resource : Resource) : List Char :=
  resource.segments.foldl (pushSegment .special) (server.base.path ++ "api".toList)

variable {server : Server}

theorem OnWeb.endpoint_eq (h : server.OnWeb) (resource : Resource) (query : Option PageQuery) :
    server.endpoint resource query =
      .ok (Url.withPairs
        { server.base with path := server.pathTo resource, query := none, fragment := none }
        (resource.filter ++ (query.map PageQuery.pairs).getD [])) := by
  obtain ⟨a, hauthority, -⟩ := h.base.authority
  have hflat : ¬server.base.isFlat = true := by simp [Url.isFlat, hauthority]
  rw [endpoint, Url.below, if_neg hflat, h.base.kind]
  rfl

theorem OnWeb.path_endpoint (h : server.OnWeb) (resource : Resource)
    (query : Option PageQuery) :
    (server.endpoint resource query).map Url.path = .ok (server.pathTo resource) := by
  rw [h.endpoint_eq]
  rfl

end Server

/-! ## Steps -/

namespace Resource

def IsPlain (resource : Resource) : Prop := ∀ step ∈ resource.segments, Url.IsPlain step

instance (resource : Resource) : Decidable resource.IsPlain :=
  inferInstanceAs (Decidable (∀ step ∈ resource.segments, Url.IsPlain step))

theorem segments_cases (resource : Resource) :
    (∃ step, resource.segments = [step] ∧ Url.IsPlain step) ∨
      ∃ before text after, resource.segments = [before, text, after] ∧ Url.IsPlain before ∧
        Url.IsPlain after ∧
        startsWithDrive (percentEncode inSpecialSegment before.toList ++ ['/']) = false ∧
        ∀ other, ∃ rival : Resource, rival.segments = [before, other, after] := by
  cases resource with
  | timeline => exact .inl ⟨_, rfl, by decide⟩
  | notifications => exact .inl ⟨_, rfl, by decide⟩
  | comments postId =>
      exact .inr ⟨_, _, _, rfl, by decide, by decide, by decide, fun other => ⟨.comments other, rfl⟩⟩
  | users search => exact .inl ⟨_, rfl, by decide⟩
  | followers username =>
      exact .inr ⟨_, _, _, rfl, by decide, by decide, by decide, fun other => ⟨.followers other, rfl⟩⟩
  | followees username =>
      exact .inr ⟨_, _, _, rfl, by decide, by decide, by decide, fun other => ⟨.followees other, rfl⟩⟩

end Resource

namespace Server

variable {server : Server}

theorem OnWeb.leads_pathTo_iff (h : server.OnWeb) (resource : Resource) :
    Leads server.base.path "api" resource.segments (server.pathTo resource) ↔
      resource.IsPlain := by
  have hslash : '/' ∉ "api".toList := by decide
  have hlength : 1 < (server.base.path ++ "api".toList).length := by
    rw [List.length_append]
    exact Nat.lt_of_lt_of_le (by decide) (Nat.le_add_left _ _)
  constructor
  · intro hleads
    by_contra hplain
    obtain ⟨step, hsteps, hstep⟩ | ⟨before, text, after, hsteps, hbefore, hafter, hdrive, -⟩ :=
      resource.segments_cases
    · exact hplain (by simpa [Resource.IsPlain, hsteps] using hstep)
    · have htext : ¬Url.IsPlain text := fun htext =>
        hplain (by simpa [Resource.IsPlain, hsteps] using ⟨hbefore, htext, hafter⟩)
      obtain ⟨names, hpath, hnames, hread⟩ :=
        foldl_pushSegment_of_not_plain hlength hbefore hafter hdrive htext
      rw [pathTo, hsteps, hpath, h.directory.leads_iff hslash hnames] at hleads
      exact hread hleads
  · intro hplain
    rw [pathTo, foldl_pushSegment_of_plain hlength hplain, h.directory.leads_iff hslash]
    · rw [List.map_map]
      refine List.map_congr_left fun step _ => ?_
      rw [Function.comp_apply, percentDecode_percentEncode (by decide), Text.encode_eq_flatMap]
    · refine List.forall_mem_map.mpr fun step _ => ?_
      exact not_mem_percentEncode (by decide) (by decide) (by decide) _

theorem exists_rival_of_text (server : Server) {resource : Resource}
    (htext : resource.segments.length ≠ 1) :
    ∃ rival : Resource, rival.segments ≠ resource.segments ∧
      server.pathTo rival = server.pathTo resource := by
  obtain ⟨step, hsteps, -⟩ | ⟨before, text, after, hsteps, -, -, -, hrivals⟩ :=
    resource.segments_cases
  · exact absurd (congrArg List.length hsteps) htext
  · obtain ⟨other, hother, hpush⟩ := exists_rival text
    obtain ⟨rival, hrival⟩ := hrivals other
    refine ⟨rival, ?_, ?_⟩
    · simpa [hrival, hsteps] using hother
    · simp only [pathTo, hrival, hsteps, List.foldl_cons, hpush]

/--
The path leads to the resource's own steps exactly if all of them are plain, so plain resources
with different steps never share a path.  Every resource with a text in its steps shares its
path with one that is not plain.
-/
theorem endpoint_path {address : String} {token : Option String} {server : Server}
    (hconnect : connect address token = .ok server) (hkind : server.base.kind = .special)
    (resource : Resource) :
    ∃ path, (∀ query, (server.endpoint resource query).map Url.path = .ok path) ∧
      (Leads server.base.path "api" resource.segments path ↔ resource.IsPlain) ∧
      (∀ other query, (server.endpoint other query).map Url.path = .ok path →
        resource.IsPlain → other.IsPlain → other.segments = resource.segments) ∧
      (resource.segments.length ≠ 1 → ∃ other : Resource, other.segments ≠ resource.segments ∧
        ∀ query, (server.endpoint other query).map Url.path = .ok path) := by
  have h := onWeb_of_connect hconnect hkind
  refine ⟨server.pathTo resource, h.path_endpoint resource, h.leads_pathTo_iff resource,
    fun other query hother hplain hotherPlain => ?_, fun htext => ?_⟩
  · rw [h.path_endpoint, Except.ok.injEq] at hother
    refine Leads.unique ((h.leads_pathTo_iff other).mpr hotherPlain) ?_
    rw [hother]
    exact (h.leads_pathTo_iff resource).mpr hplain
  · obtain ⟨rival, hdiffer, hpath⟩ := server.exists_rival_of_text htext
    refine ⟨rival, hdiffer, fun query => ?_⟩
    rw [h.path_endpoint, hpath]

def loopback : Server :=
  { base := {
      scheme := "http".toList
      authority := some { host := some (.ipv6 [0, 0, 0, 0, 0, 0, 0, 1]) }
      path := "/s/".toList } }

theorem connect_loopback : connect "http://[::1]/s" none = .ok loopback := by decide +kernel

theorem endpoint_path_of_slash :
    connect "http://[::1]/s" none = .ok loopback ∧ loopback.base.kind = .special ∧
      ∃ path, (∀ query, (loopback.endpoint (.followers "a/b") query).map Url.path = .ok path) ∧
        (Leads loopback.base.path "api" ["users", "a/b", "followers"] path ↔
          (Resource.followers "a/b").IsPlain) ∧
        (∀ other query, (loopback.endpoint other query).map Url.path = .ok path →
          (Resource.followers "a/b").IsPlain → other.IsPlain →
          other.segments = ["users", "a/b", "followers"]) ∧
        (3 ≠ 1 → ∃ other : Resource, other.segments ≠ ["users", "a/b", "followers"] ∧
          ∀ query, (loopback.endpoint other query).map Url.path = .ok path) :=
  ⟨connect_loopback, by decide, endpoint_path connect_loopback (by decide) (.followers "a/b")⟩

/-- A tab in a name is dropped, so the path is that of the name without it. -/
theorem endpoint_of_tab :
    connect "http://[::1]/s" none = .ok loopback ∧ loopback.base.kind = .special ∧
      loopback.endpoint (.followers "a\tb") none = loopback.endpoint (.followers "ab") none ∧
      (Resource.followers "a\tb").segments ≠ (Resource.followers "ab").segments ∧
      (loopback.endpoint (.followers "a\tb") none).map Url.path =
        .ok "/s/api/users/ab/followers".toList ∧
      ¬Leads loopback.base.path "api" (Resource.followers "a\tb").segments
        "/s/api/users/ab/followers".toList := by
  have h : loopback.OnWeb := onWeb_of_connect connect_loopback (by decide)
  have hpath : loopback.pathTo (.followers "a\tb") = "/s/api/users/ab/followers".toList := by
    decide +kernel
  have hsame : loopback.pathTo (.followers "ab") = "/s/api/users/ab/followers".toList := by
    decide +kernel
  refine ⟨connect_loopback, by decide, ?_, by decide, ?_, ?_⟩
  · rw [h.endpoint_eq, h.endpoint_eq, hpath, hsame]
    rfl
  · rw [h.path_endpoint, hpath]
  · rw [← hpath, h.leads_pathTo_iff]
    decide

end Server

end FeedReader
