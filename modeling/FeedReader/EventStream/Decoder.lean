import FeedReader.Text.Decimal
import FeedReader.Text.Utf8

/-!
# Reading an event stream

Bytes arrive in pieces of any size.  Lines end with a line feed, one carriage
return before it is dropped, and an empty line completes an event.  An
unfinished line waits for the next piece, unless it has grown too long.
-/

namespace FeedReader.EventStream

/-! ## Events -/

structure Event where
  /-- "message" unless the stream says otherwise. -/
  event : String
  data : String
  id : Option String
  deriving DecidableEq, Repr

/-- Longest unfinished line that is kept from one piece to the next. -/
def maxLine : Nat := 1024 * 1024

structure Decoder where
  /-- Bytes of the unfinished line, last byte first. -/
  buffer : List UInt8 := []
  event : Option String := none
  /-- Data lines of the unfinished event, last line first. -/
  data : List String := []
  id : Option String := none
  lastEventId : Option String := none
  /-- The delay before reconnecting that the server asked for, in milliseconds. -/
  retry : Option Nat := none
  deriving DecidableEq, Repr

namespace Decoder

/-- An empty line: the event under way is complete.  Without data there is none. -/
def dispatch (d : Decoder) : Option Event × Decoder :=
  let event :=
    match d.data with
    | [] => none
    | data => some {
        event := (d.event.filter (· ≠ "")).getD "message"
        data := String.intercalate "\n" data.reverse
        id := d.id }
  (event, { d with event := none, data := [], id := none, lastEventId := d.id.or d.lastEventId })

def splitField (line : List Char) : List Char × List Char :=
  let value :=
    match line.dropWhile (· ≠ ':') with
    | ':' :: ' ' :: value => value
    | _ :: value => value
    | [] => []
  (line.takeWhile (· ≠ ':'), value)

def field (d : Decoder) (line : List Char) : Decoder :=
  let (name, value) := splitField line
  if name = "event".toList then { d with event := some (String.ofList value) }
  else if name = "data".toList then { d with data := String.ofList value :: d.data }
  else if name = "id".toList then
    if value.contains '\x00' then d else { d with id := some (String.ofList value) }
  else if name = "retry".toList then { d with retry := (Text.word? value).or d.retry }
  else d

def processLine (d : Decoder) (line : List Char) : Option Event × Decoder :=
  match line with
  | [] => d.dispatch
  | ':' :: _ => (none, d)
  | line => (none, d.field line)

def bufferedLine (buffer : List UInt8) : List Char :=
  Text.decodeLossy (match buffer with
    | 0x0d :: line => line.reverse
    | line => line.reverse)

/-- Take one byte; `found` holds the events so far, last one first. -/
def feed (progress : List Event × Decoder) (b : UInt8) : List Event × Decoder :=
  let (found, d) := progress
  if b = 0x0a then
    match { d with buffer := [] }.processLine (bufferedLine d.buffer) with
    | (some event, d) => (event :: found, d)
    | (none, d) => (found, d)
  else
    (found, { d with buffer := b :: d.buffer })

def push (d : Decoder) (piece : List UInt8) : List Event × Decoder :=
  let (found, d) := piece.foldl feed ([], d)
  (found.reverse, if maxLine < d.buffer.length then { d with buffer := [] } else d)

/-- Forget what is unfinished.  The last event id and the delay stay. -/
def reset (d : Decoder) : Decoder :=
  { d with buffer := [], event := none, data := [], id := none }

end Decoder

end FeedReader.EventStream
