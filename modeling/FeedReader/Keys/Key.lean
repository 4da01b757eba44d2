import FeedReader.Text.CharClass
import FeedReader.Text.Decimal

/-!
# Keys

A key as it is pressed, and as settings write it: one character, the name of a
key, `F1` to `F12`, or `Ctrl+` and one character.
-/

namespace FeedReader.Keys

inductive KeyCode where
  | char (c : Char)
  | enter
  | esc
  | tab
  | backTab
  | insert
  | null
  | up
  | down
  | left
  | right
  | home
  | endKey
  | pageUp
  | pageDown
  | backspace
  | delete
  | function (n : Nat)
  deriving DecidableEq, Repr

structure Key where
  code : KeyCode
  ctrl : Bool := false
  shift : Bool := false
  alt : Bool := false
  deriving DecidableEq, Repr

/-- The case of a character already tells that shift was held. -/
def Key.normalized (k : Key) : Key :=
  match k.code with
  | .char _ => { k with shift := false }
  | _ => k

/-! ## Names -/

def foldCase (c : Char) : Char := if c = '\u212a' then 'k' else c.toLower

def foldName (s : List Char) : String := String.ofList (s.map foldCase)

def codeNamed? : String → Option KeyCode
  | "enter" | "return" => some .enter
  | "esc" | "escape" => some .esc
  | "tab" => some .tab
  | "up" => some .up
  | "down" => some .down
  | "left" => some .left
  | "right" => some .right
  | "home" => some .home
  | "end" => some .endKey
  | "pageup" => some .pageUp
  | "pagedown" => some .pageDown
  | "backspace" => some .backspace
  | "delete" | "del" => some .delete
  | "space" => some (.char ' ')
  | _ => none

def KeyCode.name : KeyCode → String
  | .char c => if c = ' ' then "Space" else String.singleton c
  | .enter => "Enter"
  | .esc => "Esc"
  | .tab => "Tab"
  | .up => "Up"
  | .down => "Down"
  | .left => "Left"
  | .right => "Right"
  | .home => "Home"
  | .endKey => "End"
  | .pageUp => "PageUp"
  | .pageDown => "PageDown"
  | .backspace => "Backspace"
  | .delete => "Delete"
  | .function n => "F" ++ toString n
  | .backTab | .insert | .null => "?"

/-! ## Reading and writing -/

def single? : List Char → Option Char
  | [c] => some c
  | _ => none

def functionNumber? : List Char → Option Nat
  | 'F' :: s | 'f' :: s => (Text.word? s).filter (· < 256)
  | _ => none

def plainKey? (s : List Char) : Option Key :=
  match codeNamed? (foldName s) with
  | some code => some { code }
  | none =>
      match functionNumber? s with
      | some n => if 1 ≤ n ∧ n ≤ 12 then some { code := .function n } else none
      | none => (single? s).map fun c => { code := .char c }

def parseKey? (text : String) : Option Key :=
  match Text.trimmed text.toList with
  | 'C' :: 't' :: 'r' :: 'l' :: '+' :: s =>
      (single? (Text.trimmed s)).map fun c => { code := .char c, ctrl := true }
  | s => plainKey? s

/-- The text of a key; of the keys held with it only control shows. -/
def Key.text (k : Key) : String := (if k.ctrl then "Ctrl+" else "") ++ k.code.name

end FeedReader.Keys
