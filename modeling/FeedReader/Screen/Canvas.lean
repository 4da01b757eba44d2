import FeedReader.Screen.Style
import FeedReader.Text.Grapheme
import FeedReader.Text.Width
import FeedReader.Words

/-!
# Drawing into cells

A canvas is a grid of cells, each with one grapheme cluster and its look.  A
cluster of two columns stands in the first cell; the second one is left blank.
-/

namespace FeedReader.Screen

/-! ## Cells -/

structure Cell where
  symbol : String := " "
  foreground : Color := .reset
  background : Color := .reset
  bold : Bool := false
  underlined : Bool := false
  deriving DecidableEq, Repr, Inhabited

namespace Cell

def restyle (c : Cell) (s : Style) : Cell :=
  { c with
    foreground := s.foreground.getD c.foreground
    background := s.background.getD c.background
    bold := c.bold || s.bold
    underlined := c.underlined || s.underlined }

def write (c : Cell) (symbol : String) (s : Style) : Cell := { c with symbol }.restyle s

def append (c : Cell) (symbol : String) (s : Style) : Cell :=
  { c with symbol := c.symbol ++ symbol }.restyle s

end Cell

/-! ## Rectangles -/

structure Rect where
  x : Nat := 0
  y : Nat := 0
  width : Nat
  height : Nat
  deriving DecidableEq, Repr

namespace Rect

def isEmpty (r : Rect) : Bool := r.width = 0 || r.height = 0

def inner (r : Rect) : Rect := ⟨r.x + 1, r.y + 1, r.width - 2, r.height - 2⟩

def row (r : Rect) (i : Nat) : Rect := ⟨r.x, r.y + i, r.width, 1⟩

def indent (r : Rect) (columns : Nat) : Rect :=
  { r with x := r.x + columns, width := r.width - columns }

/-- `percent` percent of a size.  The product has to fit into a word of 16 bits. -/
def share? (size percent : Nat) : Option Nat :=
  (Word.mul? UInt16.size size percent).map (· / 100)

def centered? (r : Rect) (percentWide percentHigh : Nat) : Option Rect := do
  let width ← share? r.width percentWide
  let height ← share? r.height percentHigh
  let x ← Word.add? UInt16.size r.x ((r.width - width) / 2)
  let y ← Word.add? UInt16.size r.y ((r.height - height) / 2)
  return ⟨x, y, width, height⟩

end Rect

/-! ## The grid -/

inductive LineAlignment where
  | left
  | center
  deriving DecidableEq, Repr

structure Canvas where
  width : Nat
  height : Nat
  cells : Array Cell
  deriving DecidableEq, Repr

namespace Canvas

def blank (width height : Nat) : Canvas := ⟨width, height, Array.replicate (width * height) {}⟩

def area (c : Canvas) : Rect := ⟨0, 0, c.width, c.height⟩

/-- Change one cell; outside the grid there is nothing to change. -/
def alter (c : Canvas) (x y : Nat) (f : Cell → Cell) : Canvas :=
  if x < c.width then { c with cells := c.cells.modify (y * c.width + x) f } else c

def cell (c : Canvas) (x y : Nat) : Cell := c.cells.getD (y * c.width + x) {}

def row (c : Canvas) (y : Nat) : List Cell := (List.range c.width).map fun x => c.cell x y

def rows (c : Canvas) : List (List Cell) := (List.range c.height).map c.row

def put (c : Canvas) (x y : Nat) (symbol : String) (s : Style) : Canvas :=
  c.alter x y fun cell => cell.write symbol s

def append (c : Canvas) (x y : Nat) (symbol : String) (s : Style) : Canvas :=
  c.alter x y fun cell => cell.append symbol s

def alterRun (c : Canvas) (x y count : Nat) (f : Cell → Cell) : Canvas :=
  (List.range count).foldl (fun c i => c.alter (x + i) y f) c

def alterAll (c : Canvas) (r : Rect) (f : Cell → Cell) : Canvas :=
  (List.range r.height).foldl (fun c i => c.alterRun r.x (r.y + i) r.width f) c

def paint (c : Canvas) (r : Rect) (s : Style) : Canvas := c.alterAll r (·.restyle s)

def clear (c : Canvas) (r : Rect) : Canvas := c.alterAll r fun _ => {}

/-! ## Lines of text -/

/--
Draw clusters from column `x` on, as far as they fit before `right`.  One without
columns joins the cell before it, and whatever follows one in the first cell of
the span joins that cell.
-/
def drawClusters (y start right : Nat) (s : Style) (first : Bool) (x : Nat) :
    List String → Canvas → Canvas
  | [], c => c
  | symbol :: symbols, c =>
      let columns := Text.displayWidth symbol
      if right < x + columns then c
      else
        let c :=
          if first then c.put x y symbol s
          else if x = start then c.append x y symbol s
          else if columns = 0 then c.append (x - 1) y symbol s
          else c.put x y symbol s
        let c := c.alterRun (x + 1) y (columns - 1) fun _ => {}
        drawClusters y start right s false (x + columns) symbols c

def visibleClusters (text : String) : List String := (Text.clusters text).filter (· ≠ "\n")

def drawSpan (c : Canvas) (r : Rect) (span : Span) : Canvas :=
  drawClusters r.y r.x (r.x + r.width) span.style true r.x (visibleClusters span.text) c

def drawLine : Rect → Line → Canvas → Canvas
  | _, [], c => c
  | r, span :: spans, c =>
      let columns := Text.displayWidth span.text
      if columns = 0 then drawLine r spans c
      else if r.isEmpty then c
      else drawLine (r.indent columns) spans (c.drawSpan r span)

def lineWidth (line : Line) : Nat :=
  line.foldl (fun width span => width + Text.displayWidth span.text) 0

/-! ## Paragraphs -/

def fitting (limit : Nat) : (used : Nat) → List (String × Style) → List (String × Style)
  | _, [] => []
  | used, (symbol, s) :: rest =>
      let columns := Text.displayWidth symbol
      if limit < columns then fitting limit used rest
      else if limit < used + columns then []
      else (symbol, s) :: fitting limit (used + columns) rest

def totalWidth (symbols : List (String × Style)) : Nat :=
  symbols.foldl (fun width symbol => width + Text.displayWidth symbol.1) 0

/-- Half the room less half the text, each half rounded down. -/
def leftMargin (alignment : LineAlignment) (room taken : Nat) : Nat :=
  match alignment with
  | .left => 0
  | .center => room / 2 - taken / 2

def drawFitting (y : Nat) : (x : Nat) → List (String × Style) → Canvas → Canvas
  | _, [], c => c
  | x, (symbol, s) :: rest, c =>
      let columns := Text.displayWidth symbol
      drawFitting y (x + columns) rest (if columns = 0 then c else c.put x y symbol s)

def drawParagraphLine (c : Canvas) (r : Rect) (alignment : LineAlignment) (base : Style)
    (line : Line) : Canvas :=
  let symbols := line.flatMap fun span =>
    (visibleClusters span.text).map fun symbol => (symbol, base.patch span.style)
  let shown := fitting r.width 0 symbols
  drawFitting r.y (r.x + leftMargin alignment r.width (totalWidth shown)) shown c

def drawParagraph (c : Canvas) (r : Rect) (alignment : LineAlignment) (base : Style)
    (lines : List Line) : Canvas :=
  ((lines.take r.height).zipIdx).foldl
    (fun c (line, i) => c.drawParagraphLine (r.row i) alignment {} line) (c.paint r base)

/-! ## Boxes -/

def drawRule (c : Canvas) (y left right : Nat) (ends : String × String) (s : Style) : Canvas :=
  let c := (List.range (right + 1 - left)).foldl (fun c i => c.put (left + i) y "─" s) c
  (c.put left y ends.1 s).put right y ends.2 s

/--
A border along the inside of a rectangle, with a title in its upper side that takes
no more room than it measures.
-/
def drawBox (c : Canvas) (r : Rect) (s : Style) (title : Line) : Canvas :=
  if r.isEmpty then c
  else
    let right := r.x + r.width - 1
    let bottom := r.y + r.height - 1
    let c := (List.range r.height).foldl
      (fun c i => (c.put r.x (r.y + i) "│" s).put right (r.y + i) "│" s) c
    let c := c.drawRule bottom r.x right ("└", "┘") s
    let c := c.drawRule r.y r.x right ("┌", "┐") s
    drawLine ⟨r.x + 1, r.y, min (lineWidth title) (r.width - 2), 1⟩ title c

/-! ## On a terminal -/

/--
What a terminal shows: a cluster of two columns takes the cell after it as well, so
that cell is not sent and stays as it was, blank.
-/
def sent (c : Canvas) : Canvas :=
  let covered := fun (i : Nat) => 0 < i && 1 < Text.displayWidth (c.cells.getD (i - 1) {}).symbol
  { c with cells := c.cells.mapIdx fun i cell => if covered i then {} else cell }

end Canvas

/-! ## Texts of several lines -/

/-- The lines of a text.  A line feed ends a line, and a carriage return before it goes with it. -/
def textLines (s : String) : List String :=
  let parts := s.splitToList (· = '\n')
  let ended := parts.dropLast.map fun line =>
    if line.endsWith "\r" then (line.dropEnd 1).toString else line
  ended ++ (parts.getLast?.filter (· ≠ "")).toList

def linesOf (s : String) : List Line :=
  if s.isEmpty then [[]] else (textLines s).map fun line => [plainSpan line]

end FeedReader.Screen
