import FeedReader.Live.Stream
import FeedReader.Session.Basic

/-!
# What happens to a session

Keys, reports of background fetches, and live events.
-/

namespace FeedReader.Session

open FeedReader.Keys (Key Action)

/-! ## Keys -/

inductive Reply where
  | proceed
  | quit
  deriving DecidableEq, Repr

def navigateAndLoad (s : Session) (nav : Nav) : Session :=
  let s := s.navigate nav
  if s.feed.sentinelVisible then s.startLoad.2 else s

def showNew (s : Session) : Session :=
  let (shown, feed) := s.feed.flush
  let s := { s with feed }
  if 0 < shown then s.syncScroll.setStatus s!"Showing {shown} new {nounFor s.resource shown}" else s

def loadMore (s : Session) : Session :=
  match s.feed.trigger with
  | .removed => s.setStatus "Nothing more to load"
  | .armed _ => s.startLoad.2

def removeShown (s : Session) : Session :=
  match s.removeFocused with
  | (some _, s) => s.setStatus "Removed from list"
  | (none, s) => s

/-- Outside the help screen there is nothing to go back from. -/
def act (s : Session) : Action → Session
  | .next => s.navigateAndLoad .next
  | .prev => s.navigateAndLoad .prev
  | .first => s.navigateAndLoad .first
  | .last => s.navigateAndLoad .last
  | .flush => s.showNew
  | .loadMore => s.loadMore
  | .remove => s.removeShown
  | .resync => (s.setStatus "Checking for new items...").startResync
  | .showHelp => { s with helpShown := true, helpScroll := 0 }
  | .quit | .back => s

def scrollCeiling : Nat := UInt64.size - 1

/-- The help screen takes all keys: two of them scroll, those for going back close it. -/
def actInHelp (s : Session) : Option Action → Session
  | some .back => { s with helpShown := false, helpScroll := 0 }
  | some .next => { s with helpScroll := min (s.helpScroll + 1) scrollCeiling }
  | some .prev => { s with helpScroll := s.helpScroll - 1 }
  | _ => s

def press (s : Session) (key : Key) : Reply × Session :=
  if s.helpShown then (.proceed, s.actInHelp (s.keymap.action? .help key))
  else
    match s.keymap.action? .everywhere key with
    | some .quit => (.quit, s)
    | some action => (.proceed, s.act action)
    | none => (.proceed, s)

/-! ## Fetched pages -/

def addedRows : LoadOutcome → Nat
  | .loaded added _ _ => added
  | _ => 0

def pageLoaded (s : Session) (request : LoadRequest) (result : PageResult) : Session :=
  let (outcome, s) := s.finishLoad request result
  if 0 < addedRows outcome && s.feed.sentinelVisible then s.startLoad.2 else s

def resyncLoaded (s : Session) (result : PageResult) : Session :=
  let s := { s with resyncTask := none }
  match result with
  | .ok page => (s.applyResync page).2.syncScroll
  | .error fault => s.setStatus s!"Resync failed: {fault.message}"

/-! ## Live events -/

def wholeSeconds (milliseconds : Nat) : Nat := max (milliseconds / 1000) 1

def liveEvent (s : Session) : Live.LiveEvent → Session
  | .connected => { s with live := .live }
  | .item entry => { s with feed := (s.feed.enqueue entry).2 }
  | .disconnected _ retryIn =>
      { s with live := .reconnecting retryIn }.setStatus
        s!"Live updates interrupted, retrying in {wholeSeconds retryIn}s"
  | .reconnected => { s with live := .live }.startResync

/-! ## Time -/

def spinnerSteps : Nat := 10

def tick (s : Session) : Session :=
  if s.feed.listing.loading then
    { s with spinner := (s.spinner + 1) % spinnerSteps, needsRedraw := true }
  else s

end FeedReader.Session
