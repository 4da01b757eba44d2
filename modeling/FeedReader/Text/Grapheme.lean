import FeedReader.Text.EmojiTable
import FeedReader.Text.GraphemeTable

/-!
# Grapheme clusters

What a reader takes for one character may be several code points.  A text is
cut into clusters from left to right; whether a code point stays with the one
before it depends on that one and on a little of what came earlier.
-/

namespace FeedReader.Text

/-! ## Classes -/

inductive BreakClass where
  | return
  | feed
  | control
  | extend
  | joiner
  | spacingMark
  | prepend
  | flag
  | leading
  | vowel
  | trailing
  | leadingVowel
  | syllable
  | other
  deriving DecidableEq, Repr

def isKiratVowel (c : Char) : Bool := c.toNat = 0x16d63 || within 0x16d67 0x16d6a c

/-- Hangul syllables are laid out in rows of 28; the first of a row has no trailing consonant. -/
def hangulClass? (c : Char) : Option BreakClass :=
  if within 0x1100 0x115f c || within 0xa960 0xa97c c then some .leading
  else if within 0x1160 0x11a7 c || within 0xd7b0 0xd7c6 c || isKiratVowel c then some .vowel
  else if within 0x11a8 0x11ff c || within 0xd7cb 0xd7fb c then some .trailing
  else if within 0xac00 0xd7a3 c then
    some (if (c.toNat - 0xac00) % 28 = 0 then .leadingVowel else .syllable)
  else none

def breakClass (c : Char) : BreakClass :=
  if c.toNat < 0x300 && c.toNat ≠ 0xad then
    if c = '\r' then .return
    else if c = '\n' then .feed
    else if breakControl.has c then .control
    else .other
  else if c = '\u200d' then .joiner
  else if within 0x1f1e6 0x1f1ff c then .flag
  else if breakControl.has c then .control
  else if breakExtend.has c then .extend
  else if breakSpacingMark.has c then .spacingMark
  else if breakPrepend.has c then .prepend
  else (hangulClass? c).getD .other

/-! ## What came before -/

inductive Pictured where
  | no
  | picture
  | joined
  deriving DecidableEq, Repr

inductive Conjunct where
  | no
  | consonant
  | linked
  deriving DecidableEq, Repr

structure Before where
  last : BreakClass
  /-- An odd number of flag halves in a row ends here. -/
  oddFlags : Bool
  pictured : Pictured
  conjunct : Conjunct
  deriving DecidableEq, Repr

def nextPictured (before : Pictured) (cls : BreakClass) (c : Char) : Pictured :=
  if pictographic.has c then .picture
  else
    match before, cls with
    | .picture, .extend => .picture
    | .picture, .joiner => .joined
    | _, _ => .no

def nextConjunct (before : Conjunct) (cls : BreakClass) (c : Char) : Conjunct :=
  if conjunctConsonant.has c then .consonant
  else if before = .no then .no
  else if conjunctLinker.has c then .linked
  else if (cls = .extend && c ≠ '\u200c') || cls = .joiner then before
  else .no

def Before.of (c : Char) (before : Option Before) : Before :=
  let cls := breakClass c
  { last := cls
    oddFlags := cls = .flag && !(before.any (·.oddFlags))
    pictured := nextPictured ((before.map Before.pictured).getD .no) cls c
    conjunct := nextConjunct ((before.map Before.conjunct).getD .no) cls c }

/-! ## Joining -/

def joinsHangul : BreakClass → BreakClass → Bool
  | .leading, .leading | .leading, .vowel | .leading, .leadingVowel | .leading, .syllable
  | .leadingVowel, .vowel | .leadingVowel, .trailing | .vowel, .vowel | .vowel, .trailing
  | .syllable, .trailing | .trailing, .trailing => true
  | _, _ => false

def BreakClass.stands : BreakClass → Bool
  | .return | .feed | .control => true
  | _ => false

def joins (before : Before) (c : Char) : Bool :=
  let cls := breakClass c
  if before.last = .return && cls = .feed then true
  else if before.last.stands || cls.stands then false
  else
    joinsHangul before.last cls || cls = .extend || cls = .joiner || cls = .spacingMark ||
      before.last = .prepend || (before.conjunct = .linked && conjunctConsonant.has c) ||
      (before.pictured = .joined && pictographic.has c) || (before.oddFlags && cls = .flag)

/-! ## Cutting -/

/-- The clusters of `s`; `cluster` holds the characters of the one under way, last one first. -/
def clustersFrom (cluster : List Char) (before : Option Before) : List Char → List (List Char)
  | [] => if cluster.isEmpty then [] else [cluster.reverse]
  | c :: s =>
      let after := some (Before.of c before)
      match before with
      | none => clustersFrom (c :: cluster) after s
      | some b =>
          if joins b c then clustersFrom (c :: cluster) after s
          else cluster.reverse :: clustersFrom [c] after s

def clusters (s : String) : List String := (clustersFrom [] none s.toList).map String.ofList

end FeedReader.Text
