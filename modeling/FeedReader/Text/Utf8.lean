/-!
# Reading bytes as text

Ill-formed bytes are read as replacement characters, one for each longest
piece that could have begun a character.
-/

namespace FeedReader.Text

def replacement : Char := '\ufffd'

/--
`need` continuation bytes are missing from the character begun; the next one
must lie between `low` and `high`.  `read` is the text so far, last character
first.
-/
structure Utf8State where
  need : Nat := 0
  low : UInt8 := 0x80
  high : UInt8 := 0xbf
  point : Nat := 0
  read : List Char := []
  deriving DecidableEq, Repr

namespace Utf8State

def emit (st : Utf8State) (c : Char) : Utf8State := { read := c :: st.read }

def lead (st : Utf8State) (b : UInt8) : Utf8State :=
  if b < 0x80 then st.emit (Char.ofNat b.toNat)
  else if b < 0xc2 then st.emit replacement
  else if b < 0xe0 then ⟨1, 0x80, 0xbf, b.toNat - 0xc0, st.read⟩
  else if b = 0xe0 then ⟨2, 0xa0, 0xbf, 0, st.read⟩
  else if b = 0xed then ⟨2, 0x80, 0x9f, 0xd, st.read⟩
  else if b < 0xf0 then ⟨2, 0x80, 0xbf, b.toNat - 0xe0, st.read⟩
  else if b = 0xf0 then ⟨3, 0x90, 0xbf, 0, st.read⟩
  else if b < 0xf4 then ⟨3, 0x80, 0xbf, b.toNat - 0xf0, st.read⟩
  else if b = 0xf4 then ⟨3, 0x80, 0x8f, 4, st.read⟩
  else st.emit replacement

def feed (st : Utf8State) (b : UInt8) : Utf8State :=
  match st.need with
  | 0 => st.lead b
  | need + 1 =>
      if st.low ≤ b && b ≤ st.high then
        let point := st.point * 64 + (b.toNat - 0x80)
        if need = 0 then st.emit (Char.ofNat point) else ⟨need, 0x80, 0xbf, point, st.read⟩
      else
        (st.emit replacement).lead b

def finish (st : Utf8State) : List Char :=
  (if st.need = 0 then st.read else replacement :: st.read).reverse

end Utf8State

def decodeLossy (bytes : List UInt8) : List Char :=
  (bytes.foldl Utf8State.feed {}).finish

def decode? (bytes : List UInt8) : Option String :=
  String.fromUTF8? ⟨bytes.toArray⟩

def encode (s : String) : List UInt8 := s.toUTF8.toList

def encodeChar (c : Char) : List UInt8 := String.utf8EncodeChar c

def encodePoint (point : Nat) : List UInt8 := encodeChar (Char.ofNat point)

end FeedReader.Text
