import FeedReader.Entry.Line
import FeedReader.Feed.Basic
import FeedReader.Keys.Keymap
import FeedReader.Settings.Basic
import FeedReader.Web.Fetch

/-!
# A session with one listing

The feed of a resource, and around it what the reader sees and what runs in the
background: at most one fetch of older entries that counts, and one of the
newest page.
-/

namespace FeedReader

/-! ## Background work -/

inductive TaskEnd (α : Type) where
  | finished (result : α)
  | panicked (message : String)
  deriving DecidableEq, Repr

def TaskEnd.caught {α : Type} : TaskEnd α → Except String α
  | .finished result => .ok result
  | .panicked message => .error message

inductive TaskError where
  | fetch (fault : Web.FetchError)
  | panicked (message : String)
  deriving DecidableEq, Repr

def TaskError.message : TaskError → String
  | .fetch fault => fault.message
  | .panicked message => s!"task panicked: {message}"

abbrev PageResult := Except TaskError (Page Entry)

def TaskEnd.page (task : TaskEnd (Except Web.FetchError (Page Entry))) : PageResult :=
  match task.caught with
  | .error message => .error (.panicked message)
  | .ok result => result.mapError .fetch

inductive Task where
  | load (request : LoadRequest)
  | resync (number : Nat)
  deriving DecidableEq, Repr

inductive TaskOrder where
  | start (task : Task)
  | abort (task : Task)
  deriving DecidableEq, Repr

/-! ## State -/

inductive LiveStatus where
  | off
  | connecting
  | live
  | reconnecting (retryIn : Nat)
  deriving DecidableEq, Repr

/-- The selected row of the list on screen, and the first row shown. -/
structure Scroll where
  selected : Option Nat := none
  offset : Nat := 0
  deriving DecidableEq, Repr

/-- With nothing selected the list is shown from its start. -/
def Scroll.select (s : Scroll) (index : Option Nat) : Scroll :=
  ⟨index, if index.isNone then 0 else s.offset⟩

abbrev EntryFeed := Feed Entry String Screen.Line TaskError

structure Session where
  resource : Resource
  feed : EntryFeed
  keymap : Keys.Keymap := .default
  live : LiveStatus := .off
  scroll : Scroll := {}
  /-- A message, and the time since which it stands. -/
  status : Option (String × Nat) := none
  helpShown : Bool := false
  helpScroll : Nat := 0
  needsRedraw : Bool := true
  spinner : Nat := 0
  loadTask : Option LoadRequest := none
  /-- The number of the fetch of the newest page that is known to run. -/
  resyncTask : Option Nat := none
  resyncs : Nat := 0
  /-- Every fetch started and every one aborted, oldest first. -/
  orders : List TaskOrder := []
  /-- Milliseconds. -/
  clock : Nat := 0

namespace Session

/-- How long a message stands, in milliseconds. -/
def statusTime : Nat := 3000

def syncScroll (s : Session) : Session := { s with scroll := s.scroll.select s.feed.focused }

def nounFor (resource : Resource) (n : Nat) : String :=
  if n = 1 then resource.noun.1 else resource.noun.2

def feedOptions (resource : Resource) (settings : Settings) : FeedOptions Entry Screen.Line :=
  { render? := some Entry.line
    pageSize := settings.pageSize
    layout := resource.layout
    trigger := settings.trigger
    pluralize := fun n => s!"{n} new {nounFor resource n}"
    emptyState := some [Screen.plainSpan resource.emptyText] }

def start (resource : Resource) (seed : Seed Entry) (settings : Settings) :
    Except FeedError Session := do
  let feed ← Feed.start seed (feedOptions resource settings)
  let (_, keymap) := Keys.Keymap.default.applyOverrides settings.keybindings
  return ({ resource, feed, keymap : Session }).syncScroll

/-! ## Messages -/

def setStatus (s : Session) (message : String) : Session :=
  { s with status := some (message, s.clock) }

def expireStatus (s : Session) : Bool × Session :=
  match s.status with
  | some (_, since) =>
      if statusTime ≤ s.clock - since then (true, { s with status := none }) else (false, s)
  | none => (false, s)

/-! ## Starting fetches -/

/-- Fire the load-more trigger; false if the feed declines. -/
def startLoad (s : Session) : Bool × Session :=
  match s.feed.beginLoad with
  | (none, feed) => (false, { s with feed })
  | (some request, feed) =>
      (true, { s with
        feed
        needsRedraw := true
        loadTask := some request
        orders := s.orders ++ [.start (.load request)] })

def heldLoad (s : Session) : List Task := (s.loadTask.map .load).toList

def heldResync (s : Session) : List Task := (s.resyncTask.map .resync).toList

/-- Fetch the newest page; one known to run is aborted. -/
def startResync (s : Session) : Session :=
  { s with
    resyncTask := some s.resyncs
    resyncs := s.resyncs + 1
    orders := s.orders ++ s.heldResync.map .abort ++ [.start (.resync s.resyncs)] }

/-! ## Changes -/

def navigate (s : Session) (nav : Nav) : Session :=
  { s with feed := (s.feed.navigate nav).2 }.syncScroll

def removeFocused (s : Session) : Option String × Session :=
  match s.feed.focusedItem with
  | none => (none, s)
  | some entry =>
      match s.feed.remove (key entry) with
      | (none, feed) => (none, { s with feed })
      | (some _, feed) => (some (key entry), { s with feed }.syncScroll)

def finishLoad (s : Session) (request : LoadRequest) (result : PageResult) :
    LoadOutcome × Session :=
  let (outcome, feed) := s.feed.finishLoad request result
  let s := { s with feed, loadTask := none }
  let s := match outcome, result with
    | .failed, .error fault => s.setStatus s!"Load failed: {fault.message} (retry with [m])"
    | _, _ => s
  (outcome, s.syncScroll)

def oldestFirst (layout : Layout) (page : Page Entry) : List Entry :=
  match layout with
  | .forward => page.items.reverse
  | .reverse => page.items

def applyResync (s : Session) (page : Page Entry) : Nat × Session :=
  let feed :=
    (oldestFirst s.feed.layout page).foldl (fun feed entry => (feed.enqueue entry).2) s.feed
  (feed.queued.length, { s with feed })

def teardown (s : Session) : Session :=
  { s with
    feed := s.feed.teardown
    loadTask := none
    resyncTask := none
    orders := s.orders ++ (s.heldLoad ++ s.heldResync).map .abort }

end Session

end FeedReader
