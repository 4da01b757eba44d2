import FeedReader.Text.CombiningTable

/-!
# Composed form

A letter with marks may be written as one character or as several.  The
composed form is the same for all of these: characters are taken apart, marks
between two letters are put in the order of their classes, and then all that
can be joined is joined again.
-/

namespace FeedReader.Text

def combiningClass (c : Char) : Nat := (combiningClasses.value? c).getD 0

/-! ## Hangul -/

/-- The leading consonant and vowel, or the syllable of two parts and the trailing consonant. -/
def splitSyllable? (c : Char) : Option (Char × Char) :=
  if within 0xac00 0xd7a3 c then
    let i := c.toNat - 0xac00
    if i % 28 = 0 then some (Char.ofNat (0x1100 + i / 588), Char.ofNat (0x1161 + i % 588 / 28))
    else some (Char.ofNat (c.toNat - i % 28), Char.ofNat (0x11a7 + i % 28))
  else none

def joinSyllable? (a b : Char) : Option Char :=
  if within 0x1100 0x1112 a && within 0x1161 0x1175 b then
    some (Char.ofNat (0xac00 + ((a.toNat - 0x1100) * 21 + (b.toNat - 0x1161)) * 28))
  else if within 0xac00 0xd7a3 a && (a.toNat - 0xac00) % 28 = 0 && within 0x11a8 0x11c2 b then
    some (Char.ofNat (a.toNat + (b.toNat - 0x11a7)))
  else none

/-! ## Pairs -/

def splitChar? (c : Char) : Option (Char × Char) :=
  if c.toNat < 0xc0 then none
  else
    match compositions.value? c with
    | some (a, b) => some (Char.ofNat a, Char.ofNat b)
    | none => splitSyllable? c

def joinChars? (a b : Char) : Option Char :=
  if b.toNat < 0x300 then none
  else
    match compositions.find? fun (_, _, pair) => pair = (a.toNat, b.toNat) with
    | some (c, _) => some (Char.ofNat c)
    | none => joinSyllable? a b

/-- No character stands for a letter with more than three marks. -/
def maxMarks : Nat := 3

def takeApart (steps : Nat) (c : Char) : List Char :=
  match steps with
  | 0 => [c]
  | steps + 1 =>
      match splitChar? c with
      | some (a, b) => takeApart steps a ++ [b]
      | none => [c]

/-! ## Order -/

/-- Add a character to a text, last one first; a mark goes before marks of greater classes. -/
def insertOrdered (c : Char) : List Char → List Char
  | [] => [c]
  | d :: rest =>
      if 0 < combiningClass c ∧ combiningClass c < combiningClass d then d :: insertOrdered c rest
      else c :: d :: rest

def inOrder (s : List Char) : List Char := (s.foldl (fun done c => insertOrdered c done) []).reverse

/-! ## Joining -/

/-- A text under way: what is done, the last letter, and the marks that did not join it. -/
structure Joined where
  done : List Char := []
  letter : Option Char := none
  marks : List Char := []
  deriving DecidableEq, Repr

namespace Joined

/-- A mark is out of reach behind another one of its class, and a letter behind any mark. -/
def reaches (j : Joined) (c : Char) : Bool :=
  j.marks.head?.all fun mark => combiningClass mark < combiningClass c

def toReversed (j : Joined) : List Char := j.marks ++ j.letter.toList ++ j.done

def add (j : Joined) (c : Char) : Joined :=
  match j.letter.bind fun letter => if j.reaches c then joinChars? letter c else none with
  | some letter => { j with letter := some letter }
  | none =>
      if combiningClass c = 0 then ⟨j.toReversed, some c, []⟩ else { j with marks := c :: j.marks }

end Joined

def composed (s : List Char) : List Char :=
  ((inOrder (s.flatMap (takeApart maxMarks))).foldl Joined.add {}).toReversed.reverse

end FeedReader.Text
