import FeedReader.Url.LabelTable
import FeedReader.Url.NameForm
import FeedReader.Url.Punycode

/-!
# Domain names in ASCII

A name is put into the form in which names are compared, and cut into labels at
its dots.  A label outside ASCII is written in Punycode.  Such a label follows
rules on marks, joiners and, where a name is written from right to left, on the
order of its characters.
-/

namespace FeedReader.Url.DomainName

def isAscii (s : List Char) : Bool := s.all (·.toNat < 0x80)

def isDenied (c : Char) : Bool :=
  c.toNat ≤ 0x20 || c.toNat = 0x7f || "#%/:<>?@[\\]^|".toList.contains c

/-! ## Directions -/

def direction (c : Char) : Direction := (directions.value? c).getD .left

/-- A name with such a character is written from right to left, at least in part. -/
def isRightward (c : Char) : Bool := direction c = .right || direction c = .arabic

def dropMarks (s : List Char) : List Char :=
  (s.reverse.dropWhile fun c => direction c = .mark).reverse

def restLeft (rest : List Char) : Bool :=
  let kinds := (dropMarks rest).map direction
  kinds.getLast?.all (fun k => k = .left || k = .european) &&
    kinds.all fun k => k ≠ .right && k ≠ .arabic

def restRight (rest : List Char) : Bool :=
  let kinds := (dropMarks rest).map direction
  kinds.getLast?.all (fun k => k = .right || k = .european || k = .arabic) &&
    kinds.all (· ≠ .left) && !(kinds.contains .european && kinds.contains .arabic)

def readsOneWay : List Char → Bool
  | [] => true
  | c :: rest =>
      match direction c with
      | .left => restLeft rest
      | .right => restRight rest
      | _ => false

/-! ## Marks and joiners -/

/-- Marks of this class end a consonant without a vowel. -/
def viramaClass : Nat := 9

def joinsNext (sides : List Joining) (s : List Char) : Bool :=
  match s.find? fun c => joinings.value? c ≠ some .transparent with
  | some c => (joinings.value? c).any sides.contains
  | none => false

/-- A joiner after a virama, or a non-joiner between letters that would join. -/
def joinerFits (before : List Char) (c : Char) (after : List Char) : Bool :=
  before.head?.any (fun b => Text.combiningClass b = viramaClass) ||
    (c = '\u200c' && joinsNext [.left, .dual] before && joinsNext [.right, .dual] after)

/-- Every joiner fits in; `before` is what came so far, last one first. -/
def joinersFit (before : List Char) : List Char → Bool
  | [] => true
  | c :: after => (!isJoiner c || joinerFits before c after) && joinersFit (c :: before) after

def maxLabel : Nat := 1000

def isWellFormed (label : List Char) : Bool :=
  !label.head?.any labelMarks.has && joinersFit [] label && label.length ≤ maxLabel

/-! ## Labels -/

structure Label where
  read : List Char
  ascii : List Char
  deriving DecidableEq, Repr

def maxPunycode : Nat := 2000

def decode? (digits : List Char) : Option (List Char) :=
  if maxPunycode < digits.length || digits.getLast?.all (· = '-') then none
  else (Punycode.decode digits).filter fun label => nameForm? label = some label

def label? (s : List Char) : Option Label :=
  if "xn--".toList.isPrefixOf s then
    match decode? (s.drop 4) with
    | some label => if isWellFormed label then some ⟨label, s⟩ else none
    | none => none
  else if isAscii s then some ⟨s, s⟩
  else if isWellFormed s then some ⟨s, "xn--".toList ++ Punycode.encode s⟩
  else none

def toAscii? (name : List Char) : Option (List Char) := do
  let form ← nameForm? name
  if form.any isDenied then none
  let labels ← (form.splitOn '.').mapM label?
  if labels.any (fun label => label.read.any isRightward) &&
      !labels.all (fun label => readsOneWay label.read) then none
  return ['.'].intercalate (labels.map Label.ascii)

end FeedReader.Url.DomainName
