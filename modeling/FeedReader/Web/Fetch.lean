import FeedReader.Entry.Decode
import FeedReader.Resource.Endpoint
import FeedReader.Web.Exchange

/-!
# Fetching pages

A page is asked for again, after growing pauses, while the server is busy or in
trouble.  Redirects are followed, but neither in circles nor far, and a body
may not be larger than `maxBody`.
-/

namespace FeedReader.Web

inductive FetchError where
  | network
  | status (code : Nat)
  | timeout
  | rateLimited (retries : Nat)
  | tooLarge
  | undecodable (fault : Json.Fault)
  | badUrl (fault : Url.UrlError)
  deriving DecidableEq, Repr

def FetchError.message : FetchError → String
  | .network => "Request failed:"
  | .status code => s!"HTTP error: status {code}"
  | .timeout => "Request timed out"
  | .rateLimited retries => s!"Rate limited after {retries} retries"
  | .tooLarge => "Response too large"
  | .undecodable _ => "Invalid response body:"
  | .badUrl fault => s!"Invalid API URL: {fault.message}"

/-! ## Limits -/

def maxRetries : Nat := 3

/-- A chain of redirects takes at most so many requests, the first one included. -/
def maxChain : Nat := 3

def maxBody : Nat := 10 * 1024 * 1024

def defaultBackoff : Nat := 1000

/-! ## One attempt -/

/-- Credentials stay with the host and port that they were meant for. -/
def Request.redirected (r : Request) (target : Url) : Request :=
  let place := fun (url : Url) =>
    (url.authority.bind Url.Authority.host,
      (url.authority.bind Url.Authority.port).or (Url.defaultPort? url.scheme))
  { r with
    url := target
    authorization := if place target = place r.url then r.authorization else none }

/--
The first reply that is no redirect.  At most `left` redirects are followed, none
of them to a URL in `earlier`, which are those asked for before this one.
-/
def follow (left : Nat) (earlier : List Url) (r : Request) (net : Network) :
    Except FetchError Reply × Network :=
  match net.send r with
  | (.reply reply, net) =>
      match reply.redirect? with
      | none => (.ok reply, net)
      | some target =>
          match left with
          | 0 => (.error .network, net)
          | left + 1 =>
              if (r.url :: earlier).contains target then (.error .network, net)
              else follow left (r.url :: earlier) (r.redirected target) net
  | (.late, net) => (.error .timeout, net)
  | (.dropped, net) | (.unreachable, net) => (.error .network, net)

/-! ## Retries -/

def retrying (left pause : Nat) (r : Request) (net : Network) :
    Except FetchError Reply × Network :=
  match follow (maxChain - 1) [] r net with
  | (.error fault, net) => (.error fault, net)
  | (.ok reply, net) =>
      if reply.isRetryable then
        match left with
        | 0 =>
            (.error (if reply.isBusy then .rateLimited maxRetries else .status reply.status), net)
        | left + 1 => retrying left (2 * pause) r (net.pause pause)
      else if reply.isSuccess then (.ok reply, net)
      else (.error (.status reply.status), net)

/-! ## Bodies -/

def collect (limit : Nat) (broken : Bool) (kept : List UInt8) :
    List (List UInt8) → Except FetchError (List UInt8)
  | [] => if broken then .error .network else .ok kept
  | piece :: pieces =>
      if limit < kept.length + piece.length then .error .tooLarge
      else collect limit broken (kept ++ piece) pieces

def Body.read (body : Body) (limit : Nat) : Except FetchError (List UInt8) :=
  if body.declared.any (limit < ·) then .error .tooLarge
  else collect limit body.broken [] body.pieces

/-! ## Pages -/

def request (server : Server) (url : Url) (headers : List (String × String)) : Request :=
  { url, authorization := server.token.map ("Bearer " ++ ·), headers }

def decodeBody (resource : Resource) (body : Body) : Except FetchError (Page Entry) := do
  let bytes ← body.read maxBody
  (resource.kind.decodePage bytes).mapError .undecodable

def fetchPage (server : Server) (backoff : Nat) (resource : Resource) (query : PageQuery)
    (net : Network) : Except FetchError (Page Entry) × Network :=
  match server.endpoint resource (some query) with
  | .error fault => (.error (.badUrl fault), net)
  | .ok url =>
      match retrying maxRetries backoff (request server url []) net with
      | (.error fault, net) => (.error fault, net)
      | (.ok reply, net) => (decodeBody resource reply.body, net)

end FeedReader.Web
