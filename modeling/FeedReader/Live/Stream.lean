import FeedReader.EventStream.Decoder
import FeedReader.Web.Fetch

/-!
# Live arrivals

A stream of events is kept open.  When it ends it is opened again after a
delay, which doubles with each failure up to a limit and starts over once the
stream is open.  The server may ask for another delay to start from.
-/

namespace FeedReader.Live

open FeedReader.Web (Answer Body FetchError)

/-- The first delay and the limit to which it doubles, both in whole milliseconds. -/
structure Backoff where
  initial : Nat := 3000
  max : Nat := 60000
  deriving DecidableEq, Repr

inductive LiveEvent where
  | connected
  | item (entry : Entry)
  | disconnected (reason : String) (retryIn : Nat)
  | reconnected
  deriving DecidableEq, Repr

structure Stream where
  kind : EntryKind
  maxDelay : Nat
  decoder : EventStream.Decoder := {}
  connectedBefore : Bool := false
  /-- The delay to start from. -/
  base : Nat
  delay : Nat
  deriving DecidableEq, Repr

namespace Stream

def start? (resource : Resource) (backoff : Backoff) : Option Stream :=
  if resource.isLive then
    some {
      kind := resource.kind
      maxDelay := backoff.max
      base := backoff.initial
      delay := backoff.initial }
  else none

/-! ## Opening -/

def request (s : Stream) (server : Server) (url : Url) : Web.Request :=
  Web.request server url
    ([("Accept", "text/event-stream"), ("Cache-Control", "no-cache")] ++
      (s.decoder.lastEventId.map fun id => ("Last-Event-ID", id)).toList)

def opened (s : Stream) (answer : Answer) : Except FetchError Body :=
  if !s.decoder.lastEventId.all Web.isHeaderValue then .error .network
  else
    match answer with
    | .reply reply => if reply.isSuccess then .ok reply.body else .error (.status reply.status)
    | .late => .error .timeout
    | .dropped | .unreachable => .error .network

/-! ## Receiving -/

/-- The server's wish for another delay counts when it changes. -/
def adoptRetry (s : Stream) : Stream :=
  match s.decoder.retry with
  | some wanted => if wanted ≠ s.base then { s with base := wanted, delay := wanted } else s
  | none => s

def entries (kind : EntryKind) (events : List EventStream.Event) : List Entry :=
  events.filterMap fun e => (kind.decode e.data.toUTF8.toList).toOption

def receive (s : Stream) (piece : List UInt8) : List LiveEvent × Stream :=
  let (events, decoder) := s.decoder.push piece
  ((entries s.kind events).map .item, adoptRetry { s with decoder })

def receiveAll (s : Stream) (pieces : List (List UInt8)) : List LiveEvent × Stream :=
  pieces.foldl (fun (found, s) piece =>
    let (new, s) := s.receive piece
    (found ++ new, s)) ([], s)

/-! ## Attempts -/

/-- Report the end of an attempt; the delay after the next one doubles. -/
def disconnect (s : Stream) (reason : String) : LiveEvent × Stream :=
  (.disconnected reason s.delay, { s with delay := min (s.delay * 2) s.maxDelay })

def connect (s : Stream) : LiveEvent × Stream :=
  (if s.connectedBefore then .reconnected else .connected,
    { s with decoder := s.decoder.reset, connectedBefore := true, delay := s.base })

def attempt (s : Stream) (answer : Answer) : List LiveEvent × Stream :=
  match s.opened answer with
  | .error fault =>
      let (last, s) := s.disconnect fault.message
      ([last], s)
  | .ok body =>
      let (first, s) := s.connect
      let (items, s) := s.receiveAll body.pieces
      let reason := if body.broken then FetchError.network.message else "stream closed by server"
      let (last, s) := s.disconnect reason
      (first :: items ++ [last], s)

def run (s : Stream) (answers : List Answer) : List LiveEvent × Stream :=
  answers.foldl (fun (found, s) answer =>
    let (new, s) := s.attempt answer
    (found ++ new, s)) ([], s)

end Stream

end FeedReader.Live
