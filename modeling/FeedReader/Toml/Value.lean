/-!
# Tables of settings

The values of a TOML document.  A table remembers how it came to be, for that
decides what may still be added to it.
-/

namespace FeedReader.Toml

inductive Origin where
  | header
  /-- In passing, on the way to a table with a longer header. -/
  | implied
  /-- In passing, by a dotted key. -/
  | dotted
  /-- Between braces, which nothing can be added to later. -/
  | inline
  deriving DecidableEq, Repr

inductive Value where
  | text (s : String)
  | integer (n : Int)
  | float
  | boolean (b : Bool)
  /-- A date, a time of day or both, as its canonical text. -/
  | moment (s : String)
  | list (items : List Value)
  | table (origin : Origin) (members : List (String × Value))
  /-- Tables that share a repeated header, last one first. -/
  | series (tables : List (List (String × Value)))

abbrev Members := List (String × Value)

namespace Members

def find? (name : String) (members : Members) : Option Value :=
  (List.find? (·.1 = name) members).map (·.2)

def put (name : String) (v : Value) : Members → Members
  | [] => [(name, v)]
  | m :: members => if m.1 = name then (name, v) :: members else m :: put name v members

/-- Give a name a value at the end, whatever place it has. -/
def putLast (name : String) (v : Value) (members : Members) : Members :=
  members.filter (·.1 ≠ name) ++ [(name, v)]

/-! ## Changing a table below -/

/--
Change the table at the end of a path, making the tables on the way that are
missing.  A dotted key cannot pass through a table that has a header of its own.
A path through tables with a repeated header goes on in the last one.
-/
def alterAt (dotted : Bool) (change : Origin → Members → Option Members) :
    List String → Origin → Members → Option Members
  | [], origin, members => change origin members
  | name :: path, _, members =>
      match members.find? name with
      | none => do
          let origin := if dotted then Origin.dotted else Origin.implied
          return members ++ [(name, .table origin (← alterAt dotted change path origin []))]
      | some (.table origin inner) => do
          if origin = .inline ∨ (dotted ∧ origin = .header) then none
          return members.put name (.table origin (← alterAt dotted change path origin inner))
      | some (.series (last :: earlier)) => do
          return members.put name (.series ((← alterAt dotted change path .header last) :: earlier))
      | some _ => none

def assign (members : Members) (path : List String) (name : String) (v : Value) : Option Members :=
  alterAt true (fun origin members =>
    if (path ≠ [] ∧ origin ≠ .dotted) ∨ (members.find? name).isSome then none
    else some (members ++ [(name, v)])) path .header members

end Members

/-! ## Sections -/

structure Assignment where
  path : List String
  name : String
  value : Value

inductive Header where
  | none
  | table (path : List String) (name : String)
  | series (path : List String) (name : String)
  deriving DecidableEq, Repr

structure Section where
  header : Header
  assignments : List Assignment

namespace Section

def fill (s : Section) (members : Members) : Option Members :=
  s.assignments.foldlM (fun members a => members.assign a.path a.name a.value) members

/--
Add a section to a document.  A header may name a table that so far was only
passed through, and then gives it a new place.
-/
def addTo (document : Members) (s : Section) : Option Members :=
  match s.header with
  | .none => s.fill document
  | .table path name =>
      Members.alterAt false (fun _ members => do
        match members.find? name with
        | none => return members.put name (.table .header (← s.fill []))
        | some (.table .implied inner) =>
            return members.putLast name (.table .header (← s.fill inner))
        | some _ => none) path .header document
  | .series path name =>
      Members.alterAt false (fun _ members => do
        match members.find? name with
        | none => return members.put name (.series [← s.fill []])
        | some (.series tables) => return members.put name (.series ((← s.fill []) :: tables))
        | some _ => none) path .header document

end Section

end FeedReader.Toml
