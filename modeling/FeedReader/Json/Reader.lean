import FeedReader.Json.Scaled
import FeedReader.Text.Utf8

/-!
# Reading JSON by demand

A reader takes one value of a wanted type from the front of the input and gives
the rest.  It stops at the first problem from left to right: the text is
ill-formed, or it is well-formed and not what was wanted, or it ends too early.

Each reader has a budget of loop steps.  One step takes at least one byte, so a
budget above the length of the input never runs out.
-/

namespace FeedReader.Json

inductive Fault where
  | malformed
  | mismatched
  | truncated
  deriving DecidableEq, Repr

abbrev Bytes := List UInt8

abbrev Reader (α : Type) := Nat → Bytes → Except Fault (α × Bytes)

/-! ## Bytes -/

def quote : UInt8 := 0x22
def backslash : UInt8 := 0x5c
def comma : UInt8 := 0x2c
def colon : UInt8 := 0x3a
def minus : UInt8 := 0x2d
def openBracket : UInt8 := 0x5b
def closeBracket : UInt8 := 0x5d
def openBrace : UInt8 := 0x7b
def closeBrace : UInt8 := 0x7d

def isSpace (b : UInt8) : Bool := b = 0x20 || b = 0x0a || b = 0x09 || b = 0x0d

def isDigit (b : UInt8) : Bool := 0x30 ≤ b && b ≤ 0x39

def skipSpace (s : Bytes) : Bytes := s.dropWhile isSpace

def word (expected : Bytes) (s : Bytes) : Except Fault (Unit × Bytes) :=
  match expected, s with
  | [], s => .ok ((), s)
  | _ :: _, [] => .error .truncated
  | e :: expected, b :: s => if b = e then word expected s else .error .malformed

def nullRest : Bytes := Text.encode "ull"
def trueRest : Bytes := Text.encode "rue"
def falseRest : Bytes := Text.encode "alse"

/-! ## Strings -/

def hexValue? (b : UInt8) : Option Nat :=
  if isDigit b then some (b.toNat - 0x30)
  else if 0x41 ≤ b && b ≤ 0x46 then some (b.toNat - 0x41 + 10)
  else if 0x61 ≤ b && b ≤ 0x66 then some (b.toNat - 0x61 + 10)
  else none

def hexQuad? (a b c d : UInt8) : Option Nat := do
  return (((← hexValue? a) * 16 + (← hexValue? b)) * 16 + (← hexValue? c)) * 16 + (← hexValue? d)

def hexUnit : Bytes → Except Fault (Nat × Bytes)
  | a :: b :: c :: d :: s =>
      match hexQuad? a b c d with
      | some unit => .ok (unit, s)
      | none => .error .malformed
  | _ => .error .truncated

def shortEscape? (b : UInt8) : Option UInt8 :=
  if b = quote || b = backslash || b = 0x2f then some b
  else if b = 0x62 then some 0x08
  else if b = 0x66 then some 0x0c
  else if b = 0x6e then some 0x0a
  else if b = 0x72 then some 0x0d
  else if b = 0x74 then some 0x09
  else none

/-- The low half that must follow the high half of a pair of units. -/
def lowUnit (high : Nat) : Bytes → Except Fault (Nat × Bytes)
  | [] => .error .truncated
  | a :: s =>
      if a ≠ backslash then .error .malformed
      else
        match s with
        | [] => .error .truncated
        | b :: s =>
            if b ≠ 0x75 then .error .malformed
            else do
              let (low, s) ← hexUnit s
              if 0xdc00 ≤ low && low ≤ 0xdfff then
                return ((high - 0xd800) * 0x400 + (low - 0xdc00) + 0x10000, s)
              else .error .malformed

def escapedPoint (s : Bytes) : Except Fault (Nat × Bytes) := do
  let (unit, s) ← hexUnit s
  if unit < 0xd800 || 0xdfff < unit then return (unit, s)
  else if unit < 0xdc00 then lowUnit unit s
  else .error .malformed

/-- The bytes of a string up to its closing quote; `read` holds those so far, last one first. -/
def stringBytes (read : Bytes) : Reader Bytes
  | 0, _ => .error .truncated
  | _ + 1, [] => .error .truncated
  | budget + 1, b :: s =>
      if b = quote then .ok (read.reverse, s)
      else if b = backslash then
        match s with
        | [] => .error .truncated
        | e :: s =>
            if e = 0x75 then
              match escapedPoint s with
              | .ok (point, s) =>
                  stringBytes ((Text.encodePoint point).reverse ++ read) budget s
              | .error fault => .error fault
            else
              match shortEscape? e with
              | some c => stringBytes (c :: read) budget s
              | none => .error .malformed
      else if b < 0x20 then .error .malformed
      else stringBytes (b :: read) budget s

def stringTail : Reader String := fun budget s => do
  let (bytes, s) ← stringBytes [] budget s
  match Text.decode? bytes with
  | some text => return (text, s)
  | none => .error .malformed

def skipString : Reader Unit
  | 0, _ => .error .truncated
  | _ + 1, [] => .error .truncated
  | budget + 1, b :: s =>
      if b = quote then .ok ((), s)
      else if b = backslash then
        match s with
        | [] => .error .truncated
        | e :: s =>
            if e = 0x75 then
              match hexUnit s with
              | .ok (_, s) => skipString budget s
              | .error fault => .error fault
            else if (shortEscape? e).isSome then skipString budget s
            else .error .malformed
      else if b < 0x20 then .error .malformed
      else skipString budget s

/-! ## Numbers -/

/-- A whole number from 0 to 2^64 - 1, or any other number. -/
inductive Number where
  | count (n : Nat)
  | other
  deriving DecidableEq, Repr

/-- Add digits to a significand while it stays below 2^64, and give those left over. -/
def addDigits (significand : Nat) : Bytes → Nat × Bytes
  | [] => (significand, [])
  | b :: s =>
      let more := significand * 10 + (b.toNat - 0x30)
      if isDigit b && more < UInt64.size then addDigits more s else (significand, b :: s)

def maxExponent : Nat := Nat.pow 2 31 - 1

/-- The digits of an exponent, or `none` where they go beyond 32 bits. -/
def exponentValue? (digits : Bytes) : Option Nat :=
  let value := digits.foldl (fun n b => n * 10 + (b.toNat - 0x30)) 0
  if value ≤ maxExponent then some value else none

/-- Whether a number is finite is all that is asked of one that is no count. -/
def Scaled.check (x : Scaled) (s : Bytes) : Except Fault (Number × Bytes) :=
  if x.isInfinite then .error .malformed else .ok (.other, s)

def exponentTail (x : Scaled) (s : Bytes) : Except Fault (Number × Bytes) :=
  let (negative, s) := match s with
    | 0x2b :: s => (false, s)
    | 0x2d :: s => (true, s)
    | s => (false, s)
  match s with
  | [] => .error .truncated
  | b :: _ =>
      if !isDigit b then .error .malformed
      else
        let rest := s.dropWhile isDigit
        match exponentValue? (s.takeWhile isDigit), negative with
        | some value, true => Scaled.check ⟨x.significand, x.exponent - value⟩ rest
        | some value, false => Scaled.check ⟨x.significand, x.exponent + value⟩ rest
        | none, true => .ok (.other, rest)
        | none, false => if x.significand = 0 then .ok (.other, rest) else .error .malformed

def scaleTail (x : Scaled) : Bytes → Except Fault (Number × Bytes)
  | 0x65 :: s | 0x45 :: s => exponentTail x s
  | s => x.check s

/-- The fraction after its point.  Digits that the significand cannot take are dropped. -/
def fractionTail (x : Scaled) (s : Bytes) : Except Fault (Number × Bytes) :=
  match s with
  | [] => .error .truncated
  | b :: _ =>
      if !isDigit b then .error .malformed
      else
        let (significand, left) := addDigits x.significand s
        scaleTail ⟨significand, x.exponent - (s.length - left.length : Nat)⟩
          (left.dropWhile isDigit)

/-- A number whose sign is read.  Each digit that the significand cannot take is a power of ten. -/
def numberTail (positive : Bool) (s : Bytes) : Except Fault (Number × Bytes) :=
  match s with
  | [] => .error .truncated
  | b :: s' =>
      if !isDigit b then .error .malformed
      else if b = 0x30 && s'.head?.any isDigit then .error .malformed
      else
        let (significand, left) := addDigits 0 s
        let x : Scaled := ⟨significand, (left.takeWhile isDigit).length⟩
        match left.dropWhile isDigit with
        | 0x2e :: s => fractionTail x s
        | 0x65 :: s | 0x45 :: s => exponentTail x s
        | s =>
            if x.exponent = 0 then .ok (if positive then .count significand else .other, s)
            else x.check s

def skipDigits1 (s : Bytes) : Except Fault (Unit × Bytes) :=
  if s.head?.any isDigit then .ok ((), s.dropWhile isDigit) else .error .malformed

def skipNumber (s : Bytes) : Except Fault (Unit × Bytes) := do
  let ((), s) ← match s with
    | 0x30 :: s => if s.head?.any isDigit then .error .malformed else pure ((), s)
    | s => skipDigits1 s
  let ((), s) ← match s with
    | 0x2e :: s => skipDigits1 s
    | s => pure ((), s)
  match s with
  | 0x65 :: s | 0x45 :: s =>
      skipDigits1 (match s with
        | 0x2b :: s | 0x2d :: s => s
        | s => s)
  | s => pure ((), s)

/-! ## Any value -/

/-- Pass over a scalar that begins with `b`; `s` is what follows. -/
def skipScalar (budget : Nat) (b : UInt8) (s : Bytes) : Except Fault (Unit × Bytes) :=
  if b = 0x6e then word nullRest s
  else if b = 0x74 then word trueRest s
  else if b = 0x66 then word falseRest s
  else if b = minus then skipNumber s
  else if isDigit b then skipNumber (b :: s)
  else if b = quote then skipString budget s
  else .error .malformed

def skipName (budget : Nat) (b : UInt8) (s : Bytes) : Except Fault (Unit × Bytes) :=
  if b ≠ quote then .error .malformed
  else do
    let ((), s) ← skipString budget s
    match skipSpace s with
    | [] => .error .truncated
    | c :: s => if c = colon then .ok ((), s) else .error .malformed

/-- Where the passing over of a value stands; right after an opening it may also close. -/
inductive SkipState where
  | value (mayClose : Bool)
  | name (mayClose : Bool)
  | next
  deriving DecidableEq, Repr

def closing (frame : UInt8) : UInt8 :=
  if frame = openBracket then closeBracket else closeBrace

/-- Pass over values until every bracket in `nesting`, innermost first, is closed. -/
def skipNested (nesting : Bytes) (state : SkipState) : Reader Unit
  | 0, _ => .error .truncated
  | budget + 1, s =>
      match state, nesting with
      | .value mayClose, nesting =>
          match skipSpace s with
          | [] => .error .truncated
          | b :: s =>
              if mayClose && b = closeBracket then skipNested nesting.tail .next budget s
              else if b = openBracket then skipNested (b :: nesting) (.value true) budget s
              else if b = openBrace then skipNested (b :: nesting) (.name true) budget s
              else
                match skipScalar budget b s with
                | .ok ((), s) => skipNested nesting .next budget s
                | .error fault => .error fault
      | .name mayClose, nesting =>
          match skipSpace s with
          | [] => .error .truncated
          | b :: s =>
              if mayClose && b = closeBrace then skipNested nesting.tail .next budget s
              else
                match skipName budget b s with
                | .ok ((), s) => skipNested nesting (.value false) budget s
                | .error fault => .error fault
      | .next, [] => .ok ((), s)
      | .next, frame :: nesting =>
          match skipSpace s with
          | [] => .error .truncated
          | b :: s =>
              if b = closing frame then skipNested nesting .next budget s
              else if b ≠ comma then .error .malformed
              else
                skipNested (frame :: nesting)
                  (if frame = openBracket then .value false else .name false) budget s

def skipValue : Reader Unit := skipNested [] (.value false)

/-! ## Wanted values -/

def faultOf {α : Type} : Except Fault α → Fault
  | .ok _ => .mismatched
  | .error fault => fault

/-- The fault of a value that is not wanted here: a scalar must at least be well-formed. -/
def unwanted (budget : Nat) (b : UInt8) (s : Bytes) : Fault :=
  if b = 0x6e then faultOf (word nullRest s)
  else if b = 0x74 then faultOf (word trueRest s)
  else if b = 0x66 then faultOf (word falseRest s)
  else if b = minus then faultOf (numberTail false s)
  else if isDigit b then faultOf (numberTail true (b :: s))
  else if b = quote then faultOf (stringTail budget s)
  else if b = openBracket || b = openBrace then .mismatched
  else .malformed

def string : Reader String := fun budget s =>
  match skipSpace s with
  | [] => .error .truncated
  | b :: s => if b = quote then stringTail budget s else .error (unwanted budget b s)

def boolean : Reader Bool := fun budget s =>
  match skipSpace s with
  | [] => .error .truncated
  | b :: s =>
      if b = 0x74 then (word trueRest s).map fun r => (true, r.2)
      else if b = 0x66 then (word falseRest s).map fun r => (false, r.2)
      else .error (unwanted budget b s)

def count : Reader Nat := fun budget s =>
  match skipSpace s with
  | [] => .error .truncated
  | b :: s =>
      if b = minus || isDigit b then do
        match ← if b = minus then numberTail false s else numberTail true (b :: s) with
        | (.count n, s) => return (n, s)
        | (.other, _) => .error .mismatched
      else .error (unwanted budget b s)

def optional {α : Type} (read : Reader α) : Reader (Option α) := fun budget s =>
  match skipSpace s with
  | 0x6e :: s => (word nullRest s).map fun r => (none, r.2)
  | s => (read budget s).map fun r => (some r.1, r.2)

def refine {α β : Type} (read : Reader α) (interpret : α → Option β) : Reader β :=
    fun budget s => do
  let (a, s) ← read budget s
  match interpret a with
  | some b => return (b, s)
  | none => .error .mismatched

def nextItem (first : Bool) (s : Bytes) : Except Fault (Bool × Bytes) :=
  match skipSpace s with
  | [] => .error .truncated
  | b :: s' =>
      if b = closeBracket then .ok (false, b :: s')
      else if first then .ok (true, b :: s')
      else if b = comma then
        match skipSpace s' with
        | [] => .error .truncated
        | c :: s => if c = closeBracket then .error .malformed else .ok (true, c :: s)
      else .error .malformed

def endOf (close : UInt8) (s : Bytes) : Except Fault (Unit × Bytes) :=
  match skipSpace s with
  | [] => .error .truncated
  | b :: s => if b = close then .ok ((), s) else .error .malformed

/-- The items of a list, its opening bracket read; `found` holds those so far, last one first. -/
def items {α : Type} (read : Reader α) (found : List α) : Reader (List α)
  | 0, _ => .error .truncated
  | budget + 1, s => do
      match ← nextItem found.isEmpty s with
      | (false, s) =>
          let ((), s) ← endOf closeBracket s
          return (found.reverse, s)
      | (true, s) =>
          let (a, s) ← read budget s
          items read (a :: found) budget s

def list {α : Type} (read : Reader α) : Reader (List α) := fun budget s =>
  match skipSpace s with
  | [] => .error .truncated
  | b :: s => if b = openBracket then items read [] budget s else .error (unwanted budget b s)

def readAll {α : Type} (read : Reader α) (s : Bytes) : Except Fault α := do
  let (a, s) ← read (s.length + 1) s
  if (skipSpace s).isEmpty then return a else .error .malformed

end FeedReader.Json
