import FeedReader.Text.CharClass

/-!
# One printable line from untrusted text

Control characters and terminal escape sequences are taken out, and every run
of blank characters becomes one space between two other characters.
-/

namespace FeedReader.Text

inductive EscapeMode where
  | none
  | started
  /-- After ESC [, until a final character. -/
  | control
  /-- After ESC ], until BEL or ESC backslash. -/
  | command
  /-- After an ESC inside a command. -/
  | commandEnd
  deriving DecidableEq, Repr

/-- `kept` is the line so far, last character first; `gap` is a blank run not yet written. -/
structure LineState where
  mode : EscapeMode := .none
  kept : List Char := []
  gap : Bool := false
  deriving DecidableEq, Repr

namespace LineState

def text (st : LineState) (c : Char) : LineState :=
  if c = '\x1b' then { st with mode := .started }
  else if isBlank c then { st with mode := .none, gap := !st.kept.isEmpty }
  else if isControl c then { st with mode := .none }
  else ⟨.none, c :: (if st.gap then ' ' :: st.kept else st.kept), false⟩

def command (st : LineState) (c : Char) : LineState :=
  if c = '\x07' then { st with mode := .none }
  else if c = '\x1b' then { st with mode := .commandEnd }
  else { st with mode := .command }

def feed (st : LineState) (c : Char) : LineState :=
  match st.mode with
  | .none => st.text c
  | .started =>
      if c = '[' then { st with mode := .control }
      else if c = ']' then { st with mode := .command }
      else st.text c
  | .control => if '@' ≤ c && c ≤ '~' then { st with mode := .none } else st
  | .command => st.command c
  | .commandEnd => if c = '\\' then { st with mode := .none } else st.command c

end LineState

def flatten (s : List Char) : List Char :=
  (s.foldl LineState.feed {}).kept.reverse

def hasDoubleSpace : List Char → Bool
  | ' ' :: ' ' :: _ => true
  | _ :: rest => hasDoubleSpace rest
  | [] => false

/-- Nothing to take out and nothing to collapse, as far as a quick look tells. -/
def isClean (s : List Char) : Bool :=
  !s.any isControl && !hasDoubleSpace s && !s.head?.any isBlank && !s.getLast?.any isBlank

def singleLine (s : String) : String :=
  if isClean s.toList then s else String.ofList (flatten s.toList)

end FeedReader.Text
