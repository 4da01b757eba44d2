/-!
# Punycode

Labels of host names written with ASCII letters, digits and hyphens: first the
ASCII characters, then, as variable-length numbers, where the others go.
-/

namespace FeedReader.Url.Punycode

def base : Nat := 36
def tMin : Nat := 1
def tMax : Nat := 26
def skew : Nat := 38
def damp : Nat := 700
def firstBias : Nat := 72
def firstPoint : Nat := 128

def settleBias (fuel delta k : Nat) : Nat :=
  match fuel with
  | 0 => k
  | fuel + 1 =>
      if (base - tMin) * tMax / 2 < delta then settleBias fuel (delta / (base - tMin)) (k + base)
      else k + (base - tMin + 1) * delta / (delta + skew)

def adapt (delta points : Nat) (first : Bool) : Nat :=
  let delta := if first then delta / damp else delta / 2
  settleBias delta (delta + delta / points) 0

def threshold (k bias : Nat) : Nat :=
  if k ≤ bias then tMin else min tMax (k - bias)

def digitChar (d : Nat) : Char :=
  if d < 26 then Char.ofNat ('a'.toNat + d) else Char.ofNat ('0'.toNat + (d - 26))

def digitValue? (c : Char) : Option Nat :=
  if 'a' ≤ c && c ≤ 'z' then some (c.toNat - 'a'.toNat)
  else if 'A' ≤ c && c ≤ 'Z' then some (c.toNat - 'A'.toNat)
  else if '0' ≤ c && c ≤ '9' then some (c.toNat - '0'.toNat + 26)
  else none

def writeNumber (fuel q k bias : Nat) : List Char :=
  match fuel with
  | 0 => []
  | fuel + 1 =>
      let t := threshold k bias
      if q < t then [digitChar q]
      else
        digitChar (t + (q - t) % (base - t)) ::
          writeNumber fuel ((q - t) / (base - t)) (k + base) bias

structure EncodeState where
  delta : Nat := 0
  bias : Nat := firstBias
  done : Nat
  written : List Char := []

def encodePoint (basic point : Nat) (st : EncodeState) (c : Char) : EncodeState :=
  if c.toNat < point then { st with delta := st.delta + 1 }
  else if c.toNat = point then
    { delta := 0
      bias := adapt st.delta (st.done + 1) (st.done = basic)
      done := st.done + 1
      written := st.written ++ writeNumber (st.delta + 1) st.delta base st.bias }
  else st

def encodePoints (s : List Char) (basic point : Nat) (st : EncodeState) : List Nat → EncodeState
  | [] => st
  | next :: points =>
      let st := { st with delta := st.delta + (next - point) * (st.done + 1) }
      let st := s.foldl (encodePoint basic next) st
      encodePoints s basic (next + 1) { st with delta := st.delta + 1 } points

def encode (s : List Char) : List Char :=
  let basic := s.filter fun c => c.toNat < firstPoint
  let points := ((s.map Char.toNat).filter (firstPoint ≤ ·)).mergeSort.eraseDups
  (if basic.isEmpty then [] else basic ++ ['-']) ++
    (encodePoints s basic.length firstPoint { done := basic.length } points).written

/-- Numbers are words of 32 bits. -/
def wordLimit : Nat := UInt32.size

def readNumber (value weight k bias : Nat) : List Char → Option (Nat × List Char)
  | [] => none
  | c :: s => do
      let d ← digitValue? c
      let t := threshold k bias
      let value := value + d * weight
      if wordLimit ≤ value then none
      if d < t then return (value, s)
      if wordLimit ≤ weight * (base - t) then none
      readNumber value (weight * (base - t)) (k + base) bias s

/-- Read the places of the other characters; each takes at least one digit of the `fuel`. -/
def decodePoints (fuel : Nat) (s : List Char) (point place bias : Nat) (read : List Char) :
    Option (List Char) :=
  match fuel, s with
  | _, [] => some read
  | 0, _ => none
  | fuel + 1, s => do
      let (delta, s) ← readNumber 0 1 base bias s
      let size := read.length + 1
      let point := point + (place + delta) / size
      let place := (place + delta) % size
      if 0x10ffff < point || (0xd800 ≤ point && point ≤ 0xdfff) then none
      decodePoints fuel s point (place + 1) (adapt delta size (read.all (·.toNat < firstPoint)))
        (read.insertIdx place (Char.ofNat point))

/-- A hyphen in front does not divide the ASCII characters from the rest. -/
def decode (s : List Char) : Option (List Char) :=
  let tail := (s.reverse.takeWhile (· ≠ '-')).reverse
  let basic := s.take (s.length - tail.length - 1)
  let rest := if basic.isEmpty then s else tail
  decodePoints rest.length rest firstPoint 0 firstBias basic

end FeedReader.Url.Punycode
