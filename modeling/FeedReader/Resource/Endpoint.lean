import FeedReader.Resource.Basic
import FeedReader.Text.Quoted
import FeedReader.Url.Basic

/-!
# Where resources are

The server's address, the path of each resource below it, and the query that
asks for a page.
-/

namespace FeedReader

inductive PageQuery where
  /-- The last `count` entries before a cursor. -/
  | older (before : Option String) (count : Nat)
  /-- The first `count` entries after a cursor. -/
  | newer (after : Option String) (count : Nat)
  deriving DecidableEq, Repr

def PageQuery.pairs : PageQuery → List (String × String)
  | .older before count =>
      ("last", toString count) :: (before.map fun c => ("before", c)).toList
  | .newer after count =>
      ("first", toString count) :: (after.map fun c => ("after", c)).toList

namespace Resource

def segments : Resource → List String
  | .timeline => ["timeline"]
  | .notifications => ["notifications"]
  | .comments postId => ["posts", postId, "comments"]
  | .users _ => ["users"]
  | .followers username => ["users", username, "followers"]
  | .followees username => ["users", username, "followees"]

def filter (r : Resource) : List (String × String) :=
  (r.searched.map fun search => ("search", search)).toList

end Resource

/-- A server: its address, always a directory, and the token to show it. -/
structure Server where
  base : Url
  token : Option String := none
  deriving DecidableEq, Repr

namespace Server

def connect (address : String) (token : Option String) : Except Url.UrlError Server :=
  (Url.parse address).map fun url => ⟨url.asDirectory, token⟩

def endpoint (s : Server) (resource : Resource) (query : Option PageQuery) :
    Except Url.UrlError Url :=
  (s.base.below "api".toList resource.segments).map fun url =>
    url.withPairs (resource.filter ++ (query.map PageQuery.pairs).getD [])

def describe (s : Server) : String :=
  "ApiClient \x7b base: " ++ Text.quoted s.base.text ++ ", token: " ++
    Text.quotedOption (s.token.map fun _ => "[REDACTED]") ++ " \x7d"

end Server

end FeedReader
