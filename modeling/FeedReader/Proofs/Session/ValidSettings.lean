import FeedReader.Proofs.Feed.Step
import FeedReader.Proofs.Resource.Paths
import FeedReader.Session.Basic
import FeedReader.Settings.Basic

/-!
# Settings that have passed their check

The check looks at the page size and at the server's address.  Later a server, the addresses of
its resources and a session are made from the settings, and each of these may fail in its own
way.  The check is strong enough for all three, whatever else the address holds.
-/

namespace FeedReader

/-! ## The check -/

namespace Settings

theorem validate_eq (settings : Settings) :
    settings.validate =
      if settings.pageSize = 0 ∨ maxPageSize < settings.pageSize then
        .error (.pageSize settings.pageSize)
      else
        match Url.parse settings.apiUrl with
        | .error fault => .error (.address settings.apiUrl fault)
        | .ok url =>
            if String.ofList url.scheme ≠ "http" ∧ String.ofList url.scheme ≠ "https" then
              .error (.scheme (String.ofList url.scheme))
            else .ok () := by
  rw [validate]
  split
  · rfl
  · cases Url.parse settings.apiUrl with
    | error fault => rfl
    | ok url => rfl

theorem validate_eq_ok_iff (settings : Settings) :
    settings.validate = .ok () ↔
      0 < settings.pageSize ∧ settings.pageSize ≤ maxPageSize ∧
        ∃ url, Url.parse settings.apiUrl = .ok url ∧
          (String.ofList url.scheme = "http" ∨ String.ofList url.scheme = "https") := by
  rw [validate_eq]
  split
  · next hsize =>
      have hout : ¬(0 < settings.pageSize ∧ settings.pageSize ≤ maxPageSize) := by omega
      simp [← and_assoc, hout]
  · next hsize =>
      have hin : 0 < settings.pageSize ∧ settings.pageSize ≤ maxPageSize := by omega
      cases Url.parse settings.apiUrl with
      | error fault => simp
      | ok url =>
          simp [hin]
          tauto

end Settings

/-! ## What is made from the settings -/

theorem Url.kind_of_scheme {url : Url}
    (h : String.ofList url.scheme = "http" ∨ String.ofList url.scheme = "https") :
    url.kind = .special := by
  unfold kind SchemeKind.of
  cases h with
  | inl hhttp => simp [hhttp]
  | inr hhttps => simp [hhttps]

theorem Server.connect_of_parse {address : String} {url : Url}
    (h : Url.parse address = .ok url) (hkind : url.kind = .special) (token : Option String) :
    ∃ server, connect address token = .ok server ∧ server.OnWeb := by
  have hconnect : connect address token = .ok ⟨url.asDirectory, token⟩ := by
    simp [connect, h, Except.map]
  have hbase : url.asDirectory.kind = .special := by
    unfold Url.kind
    rw [(Url.asDirectory_front url).1]
    exact hkind
  exact ⟨_, hconnect, onWeb_of_connect hconnect hbase⟩

theorem Session.start_eq_ok_iff (resource : Resource) (seed : Seed Entry) (settings : Settings) :
    (∃ session, Session.start resource seed settings = .ok session) ↔ settings.pageSize ≠ 0 := by
  have hfeed : (∃ feed : EntryFeed, Feed.start seed (feedOptions resource settings) = .ok feed) ↔
      settings.pageSize ≠ 0 := by
    simp [Feed.start_eq_ok_iff, feedOptions]
  rw [← hfeed]
  unfold Session.start
  cases Feed.start seed (feedOptions resource settings) with
  | error fault => simp [bind, Except.bind]
  | ok feed => simp [bind, Except.bind, pure, Except.pure]

namespace Settings

/--
From settings that pass the check a server is made with every token, on that server every
resource has an address for every query, and a session begins with every seed.
-/
theorem usable_of_validate {settings : Settings} (h : settings.validate = .ok ()) :
    (∀ token, ∃ server, Server.connect settings.apiUrl token = .ok server ∧
      ∀ resource query, ∃ url, server.endpoint resource query = .ok url) ∧
    ∀ resource seed, ∃ session, Session.start resource seed settings = .ok session := by
  obtain ⟨hsize, -, url, hparse, hscheme⟩ := (validate_eq_ok_iff settings).mp h
  constructor
  · intro token
    obtain ⟨server, hconnect, hweb⟩ :=
      Server.connect_of_parse hparse (Url.kind_of_scheme hscheme) token
    refine ⟨server, hconnect, ?_⟩
    intro resource query
    exact ⟨_, hweb.endpoint_eq resource query⟩
  · intro resource seed
    exact (Session.start_eq_ok_iff resource seed settings).mpr (by omega)

def crowded : Settings where
  apiUrl := " HTTPS:\\\\u:p@[::1]:8443/a/../b?x=1#f"
  pageSize := maxPageSize

theorem usable_of_crowded_address :
    crowded.validate = .ok () ∧
      (∀ token, ∃ server, Server.connect crowded.apiUrl token = .ok server ∧
        ∀ resource query, ∃ url, server.endpoint resource query = .ok url) ∧
      ∀ resource seed, ∃ session, Session.start resource seed crowded = .ok session := by
  have hvalid : crowded.validate = .ok () := by decide +kernel
  exact ⟨hvalid, usable_of_validate hvalid⟩

end Settings

end FeedReader
