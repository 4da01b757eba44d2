import FeedReader.Session.Frame

/-!
# The loop around a session

One thing happens after the other: a key is pressed, a live event comes in, a
result is handled.  Fetches run beside the loop.  Each of them puts its one result
into a channel, at any time unless it is aborted first, and the loop takes results
out in the order in which they came in.
-/

namespace FeedReader

/-- What comes out of the channel.  Only a page of older entries says what it was asked for. -/
inductive Report where
  | older (request : LoadRequest) (result : PageResult)
  | newest (result : PageResult)

def Task.report (result : PageResult) : Task → Report
  | .load request => .older request result
  | .resync _ => .newest result

inductive Happening where
  | subscribed
  /-- The first page may be short; then loading goes on. -/
  | begun
  | keyPressed (key : Keys.Key)
  | liveEvent (event : Live.LiveEvent)
  | fetched (task : Task) (result : PageResult)
  | reported
  | ticked
  | waited (milliseconds : Nat)
  | resized
  | drawn (now : Time.Instant) (width height : Nat)

/-- `running` holds the fetches that were started and neither aborted nor brought to an end. -/
structure Loop where
  session : Session
  running : List Task := []
  /-- Oldest result first. -/
  channel : List Report := []
  /-- Drawing has failed, which ends the program on the spot. -/
  crashed : Bool := false

namespace Session

def marked (s : Session) : Session := { s with needsRedraw := true }

def handle (s : Session) : Report → Session
  | .older request result => s.pageLoaded request result
  | .newest result => s.resyncLoaded result

def subscribe (s : Session) : Session :=
  { s with feed := s.feed.attach 0, live := .connecting }

def beginLoading (s : Session) : Session :=
  if s.feed.sentinelVisible then s.startLoad.2 else s

def wait (s : Session) (milliseconds : Nat) : Session :=
  let (expired, s) := { s with clock := s.clock + milliseconds }.expireStatus
  if expired then s.marked else s

end Session

namespace Loop

def obey (running : List Task) : TaskOrder → List Task
  | .start task => running ++ [task]
  | .abort task => running.erase task

def follow (w : Loop) (s : Session) : Loop :=
  { w with session := s, running := (s.orders.drop w.session.orders.length).foldl obey w.running }

def proceed (w : Loop) : Happening → Loop
  | .subscribed => w.follow w.session.subscribe
  | .begun => w.follow w.session.beginLoading
  | .keyPressed key => w.follow (w.session.marked.press key).2
  | .liveEvent event => w.follow (w.session.marked.liveEvent event)
  | .fetched task result =>
      if task ∈ w.running then
        { w with running := w.running.erase task, channel := w.channel ++ [task.report result] }
      else w
  | .reported =>
      match w.channel with
      | [] => w
      | report :: channel => { w with channel }.follow (w.session.marked.handle report)
  | .ticked => w.follow w.session.tick
  | .waited milliseconds => w.follow (w.session.wait milliseconds)
  | .resized => w.follow w.session.marked
  | .drawn now width height =>
      match w.session.draw now width height with
      | some (_, s) => w.follow { s with needsRedraw := false }
      | none => { w with crashed := true }

def next (w : Loop) (happening : Happening) : Loop :=
  if w.crashed then w else w.proceed happening

def after (w : Loop) : List Happening → Loop
  | [] => w
  | happening :: happenings => (w.next happening).after happenings

def teardown (w : Loop) : Loop := w.follow w.session.teardown

end Loop

end FeedReader
