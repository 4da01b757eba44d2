import FeedReader.Text.Composition
import FeedReader.Text.PrintTable
import FeedReader.Url.Encoding
import FeedReader.Url.FormTable
import FeedReader.Url.ImageTable

/-!
# The form in which domain names are compared

Names that differ only in how their letters are written are one name.  Each
character is read as the plain small letters that it stands for, some as none
at all, and the whole is put into composed form.
-/

namespace FeedReader.Url

open FeedReader.Text (RangeTable RangeMap within)

/-! ## Images -/

inductive Image where
  | all (chars : List Char)
  /-- The first one stands for this character, and the others go along. -/
  | along (first : Nat)
  /-- Every other one, from the first on, stands for the next. -/
  | next
  deriving DecidableEq, Repr

def hexNumber (s : List Char) : Nat :=
  s.foldl (fun n c => n * 16 + (hexValue? c).getD 0) 0

def hexChars (s : List Char) : List Char :=
  ((s.splitOn '.').filter (· ≠ [])).map fun digits => Char.ofNat (hexNumber digits)

def readImage (s : List Char) : Image :=
  match s with
  | '=' :: chars => .all (hexChars chars)
  | '+' :: first => .along (hexNumber first)
  | _ => .next

def readEntry (s : List Char) : Nat × Nat × Image :=
  let (first, rest) := s.span fun c => (hexValue? c).isSome
  match rest with
  | '-' :: rest =>
      let (last, rest) := rest.span fun c => (hexValue? c).isSome
      (hexNumber first, hexNumber last, readImage rest)
  | rest => (hexNumber first, hexNumber first, readImage rest)

def images : Array (Nat × Nat × Image) :=
  ((letterImages ++ formImages).flatMap fun line =>
    (line.toList.splitOn ' ').map readEntry).toArray

def Image.of (first : Nat) (c : Char) : Image → List Char
  | .all chars => chars
  | .along image => [Char.ofNat (image + (c.toNat - first))]
  | .next => if (c.toNat - first) % 2 = 0 then [Char.ofNat (c.toNat + 1)] else [c]

/-! ## Forms -/

/--
Characters that no name may hold although they have a look of their own: numbers
with a full stop and the like, and signs that describe or replace other characters.
-/
def excluded : RangeTable := #[
  (0x2024, 0x2026), (0x2488, 0x249b), (0x2ff0, 0x2fff), (0x31ef, 0x31ef), (0x33c2, 0x33c2),
  (0x33c7, 0x33c7), (0x33d8, 0x33d8), (0xfe12, 0xfe12), (0xfe19, 0xfe19), (0xfe30, 0xfe30),
  (0xfe52, 0xfe52), (0xfffc, 0xfffd), (0x1f100, 0x1f100)]

def isJoiner (c : Char) : Bool := within 0x200c 0x200d c

def charForm? (c : Char) : Option (List Char) :=
  if c.toNat < 0x80 then some [c.toLower]
  else
    match Text.findRange (fun (first, last, _) => (first, last)) images c with
    | some (first, _, image) => some (image.of first c)
    | none =>
        if isJoiner c then some [c]
        else if Text.unprintable.has c || excluded.has c then none
        else some [c]

def nameForm? (name : List Char) : Option (List Char) :=
  (name.mapM charForm?).map fun forms => Text.composed forms.flatten

end FeedReader.Url
