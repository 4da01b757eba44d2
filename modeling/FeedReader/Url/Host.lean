import FeedReader.Text.Decimal
import FeedReader.Url.DomainName
import FeedReader.Url.Encoding

/-!
# Hosts

A host is a domain name or an address.  A name whose last label is a number is
meant as an IPv4 address and must be one; an address in brackets is IPv6.
-/

namespace FeedReader.Url

inductive UrlError where
  | emptyHost
  | badDomain
  | badDomainCharacter
  | badPort
  | badIpv4
  | badIpv6
  | relativeWithoutBase
  | relativeToFlatBase
  deriving DecidableEq, Repr

def UrlError.message : UrlError → String
  | .emptyHost => "empty host"
  | .badDomain => "invalid international domain name"
  | .badDomainCharacter => "invalid domain character"
  | .badPort => "invalid port number"
  | .badIpv4 => "invalid IPv4 address"
  | .badIpv6 => "invalid IPv6 address"
  | .relativeWithoutBase => "relative URL without a base"
  | .relativeToFlatBase => "relative URL with a cannot-be-a-base base"

inductive Host where
  | domain (name : List Char)
  | ipv4 (address : Nat)
  | ipv6 (pieces : List Nat)
  deriving DecidableEq, Repr

/-! ## IPv4 -/

def radixValue? (radix : Nat) (s : List Char) : Option Nat :=
  s.foldlM (fun n c => do
    let d ← hexValue? c
    if d < radix then return n * radix + d else none) 0

/-- A number, decimal, octal after a zero or hexadecimal after 0x. -/
def ipv4Number? (s : List Char) : Option Nat :=
  match s with
  | [] => none
  | '0' :: 'x' :: digits | '0' :: 'X' :: digits => radixValue? 16 digits
  | '0' :: d :: digits => radixValue? 8 (d :: digits)
  | digits => radixValue? 10 digits

def labelsOf (name : List Char) : List (List Char) :=
  let labels := name.splitOn '.'
  if labels.getLast? = some [] then labels.dropLast else labels

def endsInNumber (name : List Char) : Bool :=
  match (labelsOf name).getLast? with
  | none => false
  | some label =>
      (!label.isEmpty && label.all Text.isDigit) || (ipv4Number? label).isSome

/-- The last number fills what the ones before it leave. -/
def ipv4? (name : List Char) : Option Nat := do
  let numbers ← (labelsOf name).mapM ipv4Number?
  let last ← numbers.getLast?
  let others := numbers.dropLast
  if 3 < others.length || others.any (255 < ·) || Nat.pow 256 (4 - others.length) ≤ last then none
  return others.zipIdx.foldl (fun sum (n, i) => sum + n * Nat.pow 256 (3 - i)) last

def ipv4Text (address : Nat) : String :=
  s!"{address / 16777216 % 256}.{address / 65536 % 256}.{address / 256 % 256}.{address % 256}"

/-! ## IPv6 -/

def ipv6Piece? (s : List Char) : Option Nat :=
  if s.isEmpty || 4 < s.length then none else radixValue? 16 s

def dottedNumber? (s : List Char) : Option Nat := do
  let n ← Text.numeral? s
  if 255 < n || (s.head? = some '0' && s ≠ ['0']) then none else return n

def dottedPieces? (s : List Char) : Option (List Nat) :=
  match (s.splitOn '.').mapM dottedNumber? with
  | some [a, b, c, d] => some [a * 256 + b, c * 256 + d]
  | _ => none

def ipv6Pieces? (dotted : Bool) (s : List Char) : Option (List Nat) :=
  if s.isEmpty then some []
  else
    let groups := s.splitOn ':'
    match groups.getLast? with
    | none => none
    | some last => do
        let front ← groups.dropLast.mapM ipv6Piece?
        let back ← if dotted && last.contains '.' then dottedPieces? last
          else (ipv6Piece? last).map ([·])
        return front ++ back

def splitDoubleColon : List Char → Option (List Char × List Char)
  | [] => none
  | ':' :: ':' :: s => some ([], s)
  | c :: s => (splitDoubleColon s).map fun (left, right) => (c :: left, right)

/-- A double colon stands for as many zero pieces as are missing, at least one. -/
def ipv6? (s : List Char) : Option (List Nat) :=
  match splitDoubleColon s with
  | none => do
      let pieces ← ipv6Pieces? true s
      if pieces.length = 8 then return pieces else none
  | some (left, right) => do
      let left ← ipv6Pieces? false left
      let right ← ipv6Pieces? true right
      if 7 < left.length + right.length then none
      return left ++ List.replicate (8 - left.length - right.length) 0 ++ right

def lowerHex (n : Nat) : String := String.ofList (Nat.toDigits 16 n)

def longestZeros (pieces : List Nat) : Nat × Nat :=
  let runAt := fun i => ((pieces.drop i).takeWhile (· = 0)).length
  (List.range pieces.length).foldl
    (fun best i => if best.2 < runAt i then (i, runAt i) else best) (0, 0)

def ipv6Text (pieces : List Nat) : String :=
  let groups := fun (pieces : List Nat) => ":".intercalate (pieces.map lowerHex)
  let (start, size) := longestZeros pieces
  if size < 2 then groups pieces
  else groups (pieces.take start) ++ "::" ++ groups (pieces.drop (start + size))

/-! ## Hosts -/

def bracketed (s : List Char) : Except UrlError Host :=
  if s.getLast? = some ']' then
    match ipv6? (s.drop 1).dropLast with
    | some pieces => .ok (.ipv6 pieces)
    | none => .error .badIpv6
  else .error .badIpv6

def Host.parse (s : List Char) : Except UrlError Host :=
  if s.head? = some '[' then bracketed s
  else
    match (Text.decode? (percentDecode s)).bind fun name => DomainName.toAscii? name.toList with
    | none => .error .badDomain
    | some name =>
        if name.isEmpty then .error .emptyHost
        else if endsInNumber name then
          match ipv4? name with
          | some address => .ok (.ipv4 address)
          | none => .error .badIpv4
        else .ok (.domain name)

/-- The host of a URL of a scheme that is not special: any text without separators. -/
def Host.parseLoose (s : List Char) : Except UrlError Host :=
  if s.head? = some '[' then bracketed s
  else if s.any fun c => "\x00\t\n\r #/:<>?@[\\]^|".toList.contains c then
    .error .badDomainCharacter
  else .ok (.domain (percentEncode inControls s))

def Host.text : Host → List Char
  | .domain name => name
  | .ipv4 address => (ipv4Text address).toList
  | .ipv6 pieces => '[' :: (ipv6Text pieces).toList ++ [']']

end FeedReader.Url
