import FeedReader.Text.RangeTable

/-!
# Blank and control characters

Blank characters are those of the property White_Space, control characters
those of the category Cc.
-/

namespace FeedReader.Text

def isBlank (c : Char) : Bool :=
  within 0x09 0x0d c || c = ' ' || c = '\u0085' || c = '\u00a0' || c = '\u1680' ||
    within 0x2000 0x200a c || within 0x2028 0x2029 c || c = '\u202f' || c = '\u205f' ||
    c = '\u3000'

def isControl (c : Char) : Bool :=
  c.toNat < 0x20 || within 0x7f 0x9f c

def trimmed (s : List Char) : List Char :=
  ((s.dropWhile isBlank).reverse.dropWhile isBlank).reverse

def trim (s : String) : String := String.ofList (trimmed s.toList)

def isBlankText (s : String) : Bool := s.toList.all isBlank

end FeedReader.Text
