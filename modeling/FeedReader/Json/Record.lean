import FeedReader.Json.Reader

/-!
# Reading records

A record is written as an object, in any order and among members that nobody
asked for, or as a list of its fields in their order.  A field may have a
default for when it is missing; writing a field twice is a fault.
-/

namespace FeedReader.Json

/-- A field without a default must be present. -/
structure Field where
  name : String
  Value : Type
  read : Reader Value
  default? : Option Value := none

def Draft : List Field → Type
  | [] => Unit
  | f :: fields => Option f.Value × Draft fields

def Filled : List Field → Type
  | [] => Unit
  | f :: fields => f.Value × Filled fields

def Draft.blank : (fields : List Field) → Draft fields
  | [] => ()
  | _ :: fields => (none, blank fields)

def Draft.complete : (fields : List Field) → Draft fields → Except Fault (Filled fields)
  | [], () => .ok ()
  | f :: fields, (value, draft) =>
      match value.or f.default? with
      | none => .error .mismatched
      | some value => (complete fields draft).map (value, ·)

def memberValue {α : Type} (read : Reader α) : Reader α := fun budget s =>
  match skipSpace s with
  | [] => .error .truncated
  | b :: s => if b = colon then read budget s else .error .malformed

def readMember (name : String) : (fields : List Field) → Draft fields → Reader (Draft fields)
  | [], () => fun budget s => memberValue skipValue budget s
  | f :: fields, (value, draft) => fun budget s =>
      if f.name = name then
        match value with
        | some _ => .error .mismatched
        | none => (memberValue f.read budget s).map fun r => ((some r.1, draft), r.2)
      else
        (readMember name fields draft budget s).map fun r => ((value, r.1), r.2)

def nextMember (first : Bool) (s : Bytes) : Except Fault (Bool × Bytes) :=
  match skipSpace s with
  | [] => .error .truncated
  | b :: s' =>
      if b = closeBrace then .ok (false, s')
      else if first then
        if b = quote then .ok (true, s') else .error .malformed
      else if b = comma then
        match skipSpace s' with
        | [] => .error .truncated
        | c :: s => if c = quote then .ok (true, s) else .error .malformed
      else .error .malformed

def members (fields : List Field) (first : Bool) (draft : Draft fields) : Reader (Filled fields)
  | 0, _ => .error .truncated
  | budget + 1, s => do
      match ← nextMember first s with
      | (false, s) => return (← draft.complete, s)
      | (true, s) =>
          let (name, s) ← stringTail budget s
          let (draft, s) ← readMember name fields draft budget s
          members fields false draft budget s

/-- The fields in their order.  Missing ones at the end take their defaults. -/
def positions : (fields : List Field) → (first : Bool) → Reader (Filled fields)
  | [], _ => fun _ s => .ok ((), s)
  | f :: fields, first => fun budget s => do
      match ← nextItem first s with
      | (false, s) =>
          match f.default? with
          | none => .error .mismatched
          | some value => (positions fields first budget s).map fun r => ((value, r.1), r.2)
      | (true, s) =>
          let (value, s) ← f.read budget s
          (positions fields false budget s).map fun r => ((value, r.1), r.2)

def record (fields : List Field) : Reader (Filled fields) := fun budget s =>
  match skipSpace s with
  | [] => .error .truncated
  | b :: s =>
      if b = openBrace then members fields true (Draft.blank fields) budget s
      else if b = openBracket then do
        let (filled, s) ← positions fields true budget s
        let ((), s) ← endOf closeBracket s
        return (filled, s)
      else .error (unwanted budget b s)

end FeedReader.Json
