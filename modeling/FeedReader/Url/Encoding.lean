import FeedReader.Text.Utf8

/-!
# Percent and form encoding

A character that may not stand for itself is written as its bytes, each as a
percent sign and two hexadecimal digits.  Which characters those are depends on
the part of the URL.  The decoders read the encodings back.
-/

namespace FeedReader.Url

/-! ## Hexadecimal digits -/

def upperHex (n : Nat) : Char :=
  if n < 10 then Char.ofNat ('0'.toNat + n) else Char.ofNat ('A'.toNat + (n - 10))

def hexValue? (c : Char) : Option Nat :=
  if '0' ≤ c && c ≤ '9' then some (c.toNat - '0'.toNat)
  else if 'A' ≤ c && c ≤ 'F' then some (c.toNat - 'A'.toNat + 10)
  else if 'a' ≤ c && c ≤ 'f' then some (c.toNat - 'a'.toNat + 10)
  else none

def escapeByte (b : UInt8) : List Char := ['%', upperHex (b.toNat / 16), upperHex (b.toNat % 16)]

def escapeChar (c : Char) : List Char := (Text.encodeChar c).flatMap escapeByte

/-! ## Characters that are escaped -/

def inControls (c : Char) : Bool := c.toNat < 0x20 || 0x7e < c.toNat

def inFragment (c : Char) : Bool := inControls c || " \"<>`".toList.contains c

def inQuery (c : Char) : Bool := inControls c || " \"#<>".toList.contains c

def inSpecialQuery (c : Char) : Bool := inQuery c || c = '\''

def inPath (c : Char) : Bool := inFragment c || "#?\x7b\x7d".toList.contains c

def inUserinfo (c : Char) : Bool := inPath c || "/:;=@[\\]^|".toList.contains c

def inSegment (c : Char) : Bool := inPath c || c = '/' || c = '%'

def inSpecialSegment (c : Char) : Bool := inSegment c || c = '\\'

def percentEncode (escaped : Char → Bool) (s : List Char) : List Char :=
  s.flatMap fun c => if escaped c then escapeChar c else [c]

/-! ## Form encoding -/

def standsInForm (b : UInt8) : Bool :=
  (0x30 ≤ b && b ≤ 0x39) || (0x41 ≤ b && b ≤ 0x5a) || (0x61 ≤ b && b ≤ 0x7a) ||
    b = 0x2a || b = 0x2d || b = 0x2e || b = 0x5f

def formByte (b : UInt8) : List Char :=
  if standsInForm b then [Char.ofNat b.toNat]
  else if b = 0x20 then ['+']
  else escapeByte b

def formEncode (s : String) : List Char := (Text.encode s).flatMap formByte

def formPair (pair : String × String) : List Char :=
  formEncode pair.1 ++ '=' :: formEncode pair.2

def formQuery (pairs : List (String × String)) : List Char :=
  ['&'].intercalate (pairs.map formPair)

/-! ## Reading back -/

/-- A percent sign without two hexadecimal digits stands for itself. -/
def percentDecode : List Char → List UInt8
  | [] => []
  | '%' :: a :: b :: s =>
      match hexValue? a, hexValue? b with
      | some high, some low => (high * 16 + low).toUInt8 :: percentDecode s
      | _, _ => 0x25 :: percentDecode (a :: b :: s)
  | c :: s => Text.encodeChar c ++ percentDecode s

def formDecode (s : List Char) : String :=
  String.ofList (Text.decodeLossy (percentDecode (s.map fun c => if c = '+' then ' ' else c)))

def formPairs (s : List Char) : List (String × String) :=
  ((s.splitOn '&').filter fun piece => !piece.isEmpty).map fun piece =>
    (formDecode (piece.takeWhile (· ≠ '=')), formDecode ((piece.dropWhile (· ≠ '=')).drop 1))

end FeedReader.Url
