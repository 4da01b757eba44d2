import FeedReader.Url.Basic

/-!
# Requests and what becomes of them

A network is a list of answers: the first request gets the first one, and so
on.  It keeps a record of the requests that arrived and of the pauses made.
-/

namespace FeedReader.Web

structure Request where
  url : Url
  authorization : Option String := none
  headers : List (String × String) := []
  deriving DecidableEq, Repr

/-- A header value has no control characters except tabs. -/
def isHeaderByte (b : UInt8) : Bool := b = 0x09 || (0x20 ≤ b && b ≠ 0x7f)

def isHeaderValue (s : String) : Bool := s.toUTF8.toList.all isHeaderByte

/-- A request with a header that is not legal is never sent. -/
def Request.isLegal (r : Request) : Bool :=
  r.authorization.all isHeaderValue && r.headers.all fun h => isHeaderValue h.2

/-! ## Replies -/

structure Body where
  /-- The length announced, if any. -/
  declared : Option Nat := none
  pieces : List (List UInt8) := []
  broken : Bool := false
  deriving DecidableEq, Repr

structure Reply where
  status : Nat
  location : Option Url := none
  body : Body := {}
  deriving DecidableEq, Repr

namespace Reply

def isSuccess (r : Reply) : Bool := 200 ≤ r.status && r.status < 300

def isBusy (r : Reply) : Bool := r.status = 429

def isRetryable (r : Reply) : Bool := r.isBusy || (500 ≤ r.status && r.status < 600)

def redirect? (r : Reply) : Option Url :=
  if [301, 302, 303, 307, 308].contains r.status then r.location else none

end Reply

inductive Answer where
  /-- There is no connection, so the request does not arrive. -/
  | unreachable
  | dropped
  | late
  | reply (r : Reply)
  deriving DecidableEq, Repr

/-! ## Networks -/

structure Network where
  answers : List Answer := []
  /-- What requests beyond the answers listed get. -/
  further : Answer := .dropped
  /-- The requests that arrived, in order. -/
  sent : List Request := []
  /-- The pauses made between requests, in milliseconds. -/
  pauses : List Nat := []
  deriving DecidableEq, Repr

namespace Network

def unreachable : Network := { further := .unreachable }

def record (net : Network) (r : Request) : Answer → Network
  | .unreachable => net
  | _ => { net with sent := net.sent ++ [r] }

def send (net : Network) (r : Request) : Answer × Network :=
  if r.isLegal then
    match net.answers with
    | [] => (net.further, net.record r net.further)
    | answer :: answers => (answer, { net with answers }.record r answer)
  else (.unreachable, net)

def pause (net : Network) (duration : Nat) : Network :=
  { net with pauses := net.pauses ++ [duration] }

end Network

end FeedReader.Web
