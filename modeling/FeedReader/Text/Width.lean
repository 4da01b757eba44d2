import FeedReader.Text.CharClass
import FeedReader.Text.WidthTable
import FeedReader.Text.EmojiTable
import FeedReader.Text.JoiningTable

/-!
# Columns of a text

A character takes no column, one or two (one sign takes three).  The columns of
a text are the sum over its characters, except where neighbours melt into one
glyph: line ends, picture sequences and some letter pairs.  A text is therefore
measured from its end, each character against the way the text after it begins.
-/

namespace FeedReader.Text

/-! ## Single characters -/

inductive Letter where
  | hebrewLamed
  | bugineseYa
  | bugineseVowelYa
  | tifinaghConsonant
  | tifinaghJoined
  | lisuLowTone
  | turkicI
  | khmerConsonant
  deriving DecidableEq, Repr

/-- How a text begins, as far as the character before it is concerned. -/
inductive Shape where
  | plain
  | lineFeed
  | skinTone
  | flagHalf
  | flagHalves
  | picture
  | joinedPicture
  | joinedKeycap
  | joinedFlagHalf
  | joinedFlagEven
  | joinedFlagOdd
  | joinedTagEnd
  | joinedTagLetters (count : Nat)
  | joinedTagDigits (count : Nat)
  | arabicAlef
  | letter (l : Letter) (joined : Bool)
  deriving DecidableEq, Repr

def isFlagHalf (c : Char) : Bool := within 0x1f1e6 0x1f1ff c

def isSkinTone (c : Char) : Bool := within 0x1f3fb 0x1f3ff c

def isTifinaghConsonant (c : Char) : Bool := within 0x2d31 0x2d65 c || c.toNat = 0x2d6f

def isKhmerConsonant (c : Char) : Bool :=
  within 0x1780 0x1782 c || within 0x1784 0x1787 c || within 0x1789 0x178c c ||
    within 0x178e 0x1793 c || within 0x1795 0x1798 c || within 0x179b 0x179d c ||
    c.toNat = 0x17a0 || c.toNat = 0x17a2 || c.toNat = 0x17a7 || within 0x17ab 0x17ac c ||
    c.toNat = 0x17af

def isArabicAlef (c : Char) : Bool :=
  within 0x622 0x623 c || c.toNat = 0x625 || c.toNat = 0x627 || within 0x671 0x673 c ||
    c.toNat = 0x675 || within 0x773 0x774 c || within 0x870 0x882 c

def isArabicLam (c : Char) : Bool :=
  c.toNat = 0x644 || within 0x6b5 0x6b8 c || c.toNat = 0x76a || c.toNat = 0x8a6 || c.toNat = 0x8c7

def letterOf? (c : Char) : Option Shape :=
  if isArabicAlef c then some .arabicAlef
  else if c.toNat = 0x5dc then some (.letter .hebrewLamed false)
  else if c.toNat = 0x1a10 then some (.letter .bugineseYa false)
  else if isTifinaghConsonant c then some (.letter .tifinaghConsonant false)
  else if within 0xa4fc 0xa4fd c then some (.letter .lisuLowTone true)
  else if c.toNat = 0x10c03 then some (.letter .turkicI false)
  else if isKhmerConsonant c then some (.letter .khmerConsonant true)
  else none

/-- Columns of a character that is neither a control character nor in the ASCII range. -/
def tableColumns (c : Char) : Nat :=
  if c.toNat = 0x17d8 then 3
  else if zeroWidth.has c then 0
  else if doubleWidth.has c then 2
  else 1

def columns (c : Char) : Nat :=
  if isControl c then 0
  else if c.toNat ≤ 0xa0 then 1
  else tableColumns c

def shapeOf (c : Char) : Shape :=
  if isFlagHalf c then .flagHalf
  else if isSkinTone c then .skinTone
  else if emojiPresentation.has c then .picture
  else (letterOf? c).getD .plain

/-! ## Neighbours -/

/-- How the rest of a text begins: a shape, and the style selectors in front of it. -/
structure Ahead where
  shape : Shape := .plain
  pictured : Bool := false
  lettered : Bool := false
  deriving DecidableEq, Repr

namespace Ahead

/-- Letters keep melting across style selectors; a picture sequence does not. -/
def isLetter (a : Ahead) : Bool :=
  match a.shape with
  | .arabicAlef | .letter _ _ => true
  | _ => false

def isJoined (a : Ahead) : Bool :=
  match a.shape with
  | .joinedPicture | .joinedKeycap => true
  | _ => false

def picture (a : Ahead) : Ahead :=
  if a.isLetter || a.isJoined then { a with pictured := true } else { pictured := true }

def lettering (a : Ahead) : Ahead :=
  if a.isLetter then { a with lettered := true } else { lettered := true }

def dropPictured (a : Ahead) : Ahead :=
  if !a.pictured then a else if a.isLetter then { a with pictured := false } else {}

def dropLettered (a : Ahead) : Ahead :=
  if !a.lettered then a else if a.isLetter then { a with lettered := false } else {}

end Ahead

/-- Marks that a letter pair may hold without coming apart. -/
def isInvisibleMark (c : Char) : Bool :=
  c.toNat = 0x34f || within 0x17b4 0x17b5 c || within 0x180b 0x180d c || c.toNat = 0x180f ||
    c.toNat = 0x200d || within 0xfe00 0xfe0f c || within 0xe0100 0xe01ef c

/-- Pictures that a text style selector turns into one narrow sign. -/
def isTextStyleBase (c : Char) : Bool :=
  emojiStyleBase.has c && emojiPresentation.has c && !within 0x1f200 0x1f2ff c

def isTagLetter (c : Char) : Bool := within 0xe0061 0xe007a c

def isTagDigit (c : Char) : Bool := within 0xe0030 0xe0039 c

def meltLetter? (shape : Shape) (c : Char) : Option (Int × Shape) :=
  match shape with
  | .arabicAlef =>
      if isArabicLam c then some (0, .plain)
      else if zeroWidth.has c && !ligatureBreaking.has c then some (0, .arabicAlef)
      else none
  | .letter .hebrewLamed true => if c.toNat = 0x5d0 then some (0, .plain) else none
  | .letter .khmerConsonant _ => if c.toNat = 0x17d2 then some (-1, .plain) else none
  | .letter .bugineseYa true =>
      if c.toNat = 0x1a17 then some (0, .letter .bugineseVowelYa true) else none
  | .letter .bugineseVowelYa _ => if c.toNat = 0x1a15 then some (0, .plain) else none
  | .letter .tifinaghConsonant joined =>
      if c.toNat = 0x2d7f then some (1, .letter .tifinaghJoined true)
      else if joined && isTifinaghConsonant c then some (0, .plain)
      else none
  | .letter .tifinaghJoined _ => if isTifinaghConsonant c then some (-1, .plain) else none
  | .letter .lisuLowTone _ => if within 0xa4f8 0xa4fb c then some (0, .plain) else none
  | .letter .turkicI true => if c.toNat = 0x10c32 then some (0, .plain) else none
  | _ => none

def meltPicture? (shape : Shape) (c : Char) : Option (Int × Shape) :=
  match shape with
  | .skinTone =>
      if emojiModifierBase.has c then some (0, .picture)
      else if c.toNat = 0x200d then some (0, .joinedPicture)
      else none
  | .flagHalf => if isFlagHalf c then some (1, .flagHalves) else none
  | .flagHalves =>
      if isFlagHalf c then some (1, .flagHalves)
      else if c.toNat = 0x200d then some (0, .joinedPicture)
      else none
  | .picture => if c.toNat = 0x200d then some (0, .joinedPicture) else none
  | .joinedPicture =>
      if c.toNat = 0x20e3 then some (0, .joinedKeycap)
      else if isFlagHalf c then some (1, .joinedFlagHalf)
      else if isSkinTone c then some (0, .skinTone)
      else if c.toNat = 0xe007f then some (0, .joinedTagEnd)
      else if shapeOf c = .picture then some (0, .picture)
      else none
  | .joinedFlagHalf => if isFlagHalf c then some (-1, .joinedFlagEven) else none
  | .joinedFlagEven =>
      if isFlagHalf c then some (3, .joinedFlagOdd)
      else if c.toNat = 0x200d then some (0, .joinedPicture)
      else none
  | .joinedFlagOdd =>
      if isFlagHalf c then some (-1, .joinedFlagEven)
      else if c.toNat = 0x200d then some (0, .joinedPicture)
      else none
  | .joinedTagEnd =>
      if isTagLetter c then some (0, .joinedTagLetters 1)
      else if isTagDigit c then some (0, .joinedTagDigits 1)
      else none
  | .joinedTagLetters count =>
      if isTagLetter c && count < 6 then some (0, .joinedTagLetters (count + 1))
      else if isTagDigit c && count < 5 then some (0, .joinedTagDigits 1)
      else if c.toNat = 0x1f3f4 && 3 ≤ count then some (0, .picture)
      else none
  | .joinedTagDigits count =>
      if isTagDigit c && count < 3 then some (0, .joinedTagDigits (count + 1))
      else if c.toNat = 0x1f3f4 && count = 3 then some (0, .picture)
      else none
  | _ => none

def measure (c : Char) (ahead : Ahead) : Int × Ahead :=
  if ahead.pictured && emojiStyleBase.has c then
    (if ahead.isJoined then 0 else 2, { shape := .picture })
  else
    let ahead := ahead.dropPictured
    if c.toNat ≤ 0xa0 then
      if c = '\n' then (1, { shape := .lineFeed })
      else if c = '\r' && ahead = { shape := .lineFeed } then (0, {})
      else (1, {})
    else if c.toNat = 0xfe0f then (0, ahead.picture)
    else if c.toNat = 0xfe0e then (0, ahead.lettering)
    else if ahead.lettered && isTextStyleBase c then (1, {})
    else
      let shape := ahead.dropLettered.shape
      match shape with
      | .letter l joined =>
          if c.toNat = 0x200d then (0, { shape := .letter l true })
          else if isInvisibleMark c then (0, { shape := .letter l joined })
          else
            match meltLetter? shape c with
            | some (n, shape) => (n, { shape })
            | none => (tableColumns c, { shape := shapeOf c })
      | shape =>
          match (meltLetter? shape c).or (meltPicture? shape c) with
          | some (n, shape) => (n, { shape })
          | none => (tableColumns c, { shape := shapeOf c })

def width (s : List Char) : Nat :=
  (s.foldr (fun c (sum, ahead) =>
    let (n, ahead) := measure c ahead
    (sum + n, ahead)) ((0 : Int), ({} : Ahead))).1.toNat

def displayWidth (s : String) : Nat := width s.toList

end FeedReader.Text
