import FeedReader.Screen.Canvas
import FeedReader.Session.Events
import FeedReader.Time.Age

/-!
# What a session looks like

From top to bottom: a header, the offer to show new entries if any wait, the
list in a box, a footer for loading more, and the status bar.  The help screen
covers the middle of it.
-/

namespace FeedReader.Session

open FeedReader.Screen

/-! ## Header, offer, footer and status bar -/

def seconds (milliseconds : Nat) : String := toString (wholeSeconds milliseconds) ++ "s"

def indicator : LiveStatus → Span
  | .off => colored .darkGray ""
  | .connecting => colored .yellow "○ connecting"
  | .live => colored .green "● live"
  | .reconnecting retryIn => colored .yellow s!"○ reconnecting ({seconds retryIn})"

def header (s : Session) : Line :=
  [⟨" murmur ", { bold := true }⟩, colored .darkGray s!"{s.feed.listing.size} items ",
    indicator s.live]

def offer (s : Session) (label : String) : String :=
  let key := (s.keymap.keyFor? .flush).getD "n"
  s!"↑ {label} (press {key} to show)"

def offerStyle : Style :=
  { foreground := some .white, background := some .blue, bold := true }

def spinnerFrames : List String := ["⠋", "⠙", "⠹", "⠸", "⠼", "⠴", "⠦", "⠧", "⠇", "⠏"]

def spinnerFrame (s : Session) : String :=
  spinnerFrames.getD (s.spinner % spinnerFrames.length) ""

def footer (s : Session) : String :=
  let key := (s.keymap.keyFor? .loadMore).getD "m"
  if s.feed.listing.loading then s!"{s.spinnerFrame} Loading..."
  else
    match s.feed.trigger with
    | .armed .button => s!"[{key}] load more"
    | .armed .sentinel => s!"[{key}] load more (or keep scrolling)"
    | .removed => if s.feed.listing.noMore && !s.feed.listing.isEmpty then "· end of list ·" else ""

def statusText (s : Session) : String :=
  match s.status with
  | some (message, _) => message
  | none =>
      if s.feed.tornDown then "Closed"
      else "[j/k]move [n]ew [m]ore [x]remove [r]esync [?]help [q]uit"

def statusStyle : Style := { foreground := some .white, background := some .darkGray }

/-! ## The list -/

/-- Columns kept for ages; a longer age takes more. -/
def ageWidth : Nat := 7

def padRight (width : Nat) (s : String) : String :=
  s ++ String.ofList (List.replicate (width - s.length) ' ')

def ageSpan (time : Option Time.Instant) (now : Time.Instant) : Span :=
  colored .darkGray (padRight ageWidth ((time.map fun t => Time.ageLabel t now).getD ""))

def selectedStyle : Style :=
  { foreground := some .white, background := some .darkGray, bold := true }

/--
The rows on show, as the first one and the one after the last: the window moves
only as far as it must to show the selected row.
-/
def window (count height offset : Nat) (selected : Option Nat) : Nat × Nat :=
  let first := min offset (count - 1)
  let last := min count (first + height)
  match selected with
  | none => (first, last)
  | some index =>
      if last ≤ index then (max first (index + 1 - height), index + 1)
      else if index < first then (index, min last (index + height))
      else (first, last)

def listBorder : Style := { foreground := some .cyan }

def title (resource : Resource) : Line :=
  (textLines s!" {resource.title} ").map plainSpan

def drawRows (s : Session) (now : Time.Instant) (r : Rect) (first last : Nat) (c : Canvas) :
    Canvas :=
  let rows := ((s.feed.listing.rows.take last).drop first).zipIdx
  rows.foldl (fun c (row, i) =>
    let area := r.row i
    let c := Canvas.drawLine area (ageSpan row.item.time now :: row.node) c
    if s.scroll.selected = some (first + i) then c.paint area selectedStyle else c) c

def drawList (s : Session) (now : Time.Instant) (r : Rect) (c : Canvas) : Canvas × Session :=
  match s.feed.placeholder with
  | some placeholder =>
      let c := c.paint r { foreground := some .gray }
      let c := c.drawBox r listBorder (title s.resource)
      (c.drawParagraph r.inner .left { foreground := some .gray } [placeholder], s)
  | none =>
      let s := s.syncScroll
      let c := c.drawBox r listBorder (title s.resource)
      let rows := s.feed.listing.size
      if r.inner.isEmpty then (c, s)
      else if rows = 0 then (c, { s with scroll := s.scroll.select none })
      else
        let (first, last) := window rows r.inner.height s.scroll.offset s.scroll.selected
        (s.drawRows now r.inner first last c,
          { s with scroll := { s.scroll with offset := first } })

/-! ## The help screen -/

def helpArea? (area : Rect) : Option Rect := area.centered? 80 80

def helpVisible (overlay : Rect) : Nat := overlay.height - 3

def maxHelpScroll (s : Session) (overlay : Rect) : Nat :=
  s.keymap.helpRows.length - helpVisible overlay

def helpFirst (s : Session) (overlay : Rect) : Nat := min s.helpScroll (s.maxHelpScroll overlay)

def helpTitle (s : Session) (overlay : Rect) : String :=
  let limit := s.maxHelpScroll overlay
  if 0 < limit then s!" Help ({s.helpFirst overlay + 1}/{limit + 1}) " else " Help (? to close) "

def keyColumn : Nat := 22

def drawPair (r : Rect) (left right : String) (s : Style) (c : Canvas) : Canvas :=
  let c := c.paint r s
  let c := Canvas.drawLine { r with width := min keyColumn r.width } [plainSpan left] c
  Canvas.drawLine (r.indent (keyColumn + 1)) [plainSpan right] c

/-- Where help rows go: below the heading and the empty line after it. -/
def helpRowsArea (overlay : Rect) : Rect :=
  let inside := overlay.inner
  ⟨inside.x, inside.y + 2, inside.width, inside.height - 2⟩

def helpShownRows (s : Session) (overlay : Rect) : List (String × String) :=
  ((s.keymap.helpRows.drop (s.helpFirst overlay)).take (helpVisible overlay)).take
    (helpRowsArea overlay).height

def helpHint : Line := [colored .darkGray " j/k to scroll, ? or Esc to close "]

def drawHelpTable (s : Session) (overlay : Rect) (c : Canvas) : Canvas :=
  let area := helpRowsArea overlay
  let c := drawPair (overlay.inner.row 0) "Key" "Action" { bold := true, underlined := true } c
  (s.helpShownRows overlay).zipIdx.foldl
    (fun c (row, i) => drawPair (area.row i) ("  " ++ row.1) row.2 {} c) c

def drawHelp (s : Session) (overlay : Rect) (c : Canvas) : Canvas :=
  if overlay.width < 20 || overlay.height < 6 then c
  else
    let c := c.clear overlay
    let c := c.drawBox overlay listBorder [plainSpan (s.helpTitle overlay)]
    let c := s.drawHelpTable overlay c
    if s.helpFirst overlay < s.maxHelpScroll overlay then
      let hint : Rect :=
        ⟨overlay.x + 1, overlay.y + overlay.height - 1, overlay.width - 2, 1⟩
      c.drawParagraph hint .left {} [helpHint]
    else c

/-! ## The whole frame -/

def minWidth : Nat := 60
def minHeight : Nat := 10

def drawTooSmall (area : Rect) (c : Canvas) : Canvas :=
  if area.height < 3 || area.width < 20 then
    c.drawParagraph area .left {} (linesOf "Too small")
  else
    c.drawParagraph area .center {} (linesOf
      s!"Terminal too small\n\nMinimum: {minWidth}x{minHeight}\nCurrent: {area.width}x{area.height}")

def drawText (r : Rect) (alignment : LineAlignment) (base : Style) (text : String)
    (c : Canvas) : Canvas :=
  c.drawParagraph r alignment base (linesOf text)

def drawMain (s : Session) (now : Time.Instant) (area : Rect) (c : Canvas) : Canvas × Session :=
  let offerHeight := if s.feed.queued.isEmpty then 0 else 1
  let c := c.drawParagraph (area.row 0) .left {} [s.header]
  let c := match s.feed.affordance with
    | some label => drawText (area.row 1) .center offerStyle (s.offer label) c
    | none => c
  let listArea : Rect :=
    ⟨area.x, area.y + 1 + offerHeight, area.width, area.height - 3 - offerHeight⟩
  let (c, s) := s.drawList now listArea c
  let c := drawText (area.row (area.height - 2)) .center { foreground := some .darkGray } s.footer c
  (drawText (area.row (area.height - 1)) .left statusStyle s.statusText c, s)

/-- Where the place of the help screen cannot be worked out, nothing is drawn. -/
def drawAll (s : Session) (now : Time.Instant) (area : Rect) (c : Canvas) :
    Option (Canvas × Session) :=
  let (c, s) := s.drawMain now area c
  if s.helpShown then (helpArea? area).map fun overlay => (s.drawHelp overlay c, s)
  else some (c, s)

def draw (s : Session) (now : Time.Instant) (width height : Nat) : Option (Canvas × Session) :=
  let c := Canvas.blank width height
  if c.area.isEmpty then some (c, s)
  else if width < minWidth || height < minHeight then some (drawTooSmall c.area c, s)
  else s.drawAll now c.area c

end FeedReader.Session
