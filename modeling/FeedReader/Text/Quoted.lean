import FeedReader.Text.GraphemeTable
import FeedReader.Text.PrintTable

/-!
# Quoted texts

A text between double quotes, with escapes for what could not be told apart on
a screen: quotes and backslashes, characters without a look of their own, and
marks that cling to their neighbour.
-/

namespace FeedReader.Text

/-- Marks that cling to their neighbour; skin tones can also stand alone. -/
def isClinging (c : Char) : Bool := breakExtend.has c && !within 0x1f3fb 0x1f3ff c

def hexText (n : Nat) : List Char := Nat.toDigits 16 n

def quoteChar (c : Char) : List Char :=
  if c = '"' then ['\\', '"']
  else if c = '\\' then ['\\', '\\']
  else if c = '\n' then ['\\', 'n']
  else if c = '\r' then ['\\', 'r']
  else if c = '\t' then ['\\', 't']
  else if c.toNat = 0 then ['\\', '0']
  else if c.toNat < 0x20 || unprintable.has c || isClinging c then
    ['\\', 'u', '\x7b'] ++ hexText c.toNat ++ ['\x7d']
  else [c]

def quoted (s : String) : String :=
  String.ofList ('"' :: s.toList.flatMap quoteChar ++ ['"'])

def quotedOption : Option String → String
  | none => "None"
  | some s => "Some(" ++ quoted s ++ ")"

end FeedReader.Text
