import FeedReader.Toml.Scalar

/-!
# Reading a TOML document

A document is read line by line into sections, and the sections are put
together into one table.  Values nest at most `maxDepth` deep and a key has at
most `maxDepth` parts.

Loops over items and lines have a budget.  One step takes at least one character,
so a budget above the length of the input never runs out.
-/

namespace FeedReader.Toml

def maxDepth : Nat := 79

/-! ## Keys -/

def isBareKey (c : Char) : Bool := c.isAlphanum || c = '_' || c = '-'

def simpleKey : Reader String
  | '"' :: s => basicTail [] s
  | '\'' :: s => literalTail s
  | s =>
      let name := s.takeWhile isBareKey
      if name.isEmpty then none else some (String.ofList name, s.dropWhile isBareKey)

def keyPath : Nat → Reader (List String)
  | 0, _ => none
  | limit + 1, s => do
      let (name, s) ← simpleKey (skipSpace s)
      match skipSpace s with
      | '.' :: s => do
          let (path, s) ← keyPath limit s
          return (name :: path, s)
      | s => return ([name], s)

def key (s : List Char) : Option ((List String × String) × List Char) := do
  let (path, s) ← keyPath maxDepth s
  return ((path.dropLast, ← path.getLast?), s)

/-! ## Values -/

def skipBetween (inComment : Bool) : List Char → Option (List Char)
  | [] => if inComment then none else some []
  | c :: s =>
      if c = '\n' then skipBetween false s
      else if inComment then if isPlain c then skipBetween true s else none
      else if isSpace c then skipBetween false s
      else if c = '#' then skipBetween true s
      else some (c :: s)

def listTail (read : Reader Value) : Nat → List Value → Reader (List Value)
  | 0, _, _ => none
  | budget + 1, found, s => do
      match ← skipBetween false s with
      | ']' :: s => return (found.reverse, s)
      | s => do
          let (v, s) ← read s
          match ← skipBetween false s with
          | ',' :: s => listTail read budget (v :: found) s
          | ']' :: s => return ((v :: found).reverse, s)
          | _ => none

def assignment (read : Reader Value) (s : List Char) : Option (Assignment × List Char) := do
  let ((path, name), s) ← key s
  let s ← expect '=' s
  let (v, s) ← read (skipSpace s)
  return (⟨path, name, v⟩, skipSpace s)

def inlineTail (read : Reader Value) : Nat → List Assignment → Reader (List Assignment)
  | 0, _, _ => none
  | budget + 1, found, s =>
      match s with
      | ',' :: s => do
          let (a, s) ← assignment read s
          inlineTail read budget (a :: found) s
      | '\x7d' :: s => some (found.reverse, s)
      | _ => none

def inlineAssignments (read : Reader Value) (budget : Nat) : Reader (List Assignment) := fun s =>
  match skipSpace s with
  | '\x7d' :: s => some ([], s)
  | s => do
      let (a, s) ← assignment read s
      inlineTail read budget [a] s

def scalar (s : List Char) : Option (Value × List Char) :=
  match s with
  | '"' :: '"' :: '"' :: s => (longTail '"' [] (dropBreak s)).map fun r => (.text r.1, r.2)
  | '\'' :: '\'' :: '\'' :: s => (longTail '\'' [] (dropBreak s)).map fun r => (.text r.1, r.2)
  | '"' :: s => (basicTail [] s).map fun r => (.text r.1, r.2)
  | '\'' :: s => (literalTail s).map fun r => (.text r.1, r.2)
  | 't' :: 'r' :: 'u' :: 'e' :: s => some (.boolean true, s)
  | 'f' :: 'a' :: 'l' :: 's' :: 'e' :: s => some (.boolean false, s)
  | s => numberOrMoment s

/-- A value in which lists and tables nest at most `depth` deep and hold at most `budget` items. -/
def value (budget depth : Nat) (s : List Char) : Option (Value × List Char) :=
  match depth, s with
  | 0, '[' :: _ | 0, '\x7b' :: _ => none
  | depth + 1, '[' :: s =>
      (listTail (value budget depth) budget [] s).map fun r => (.list r.1, r.2)
  | depth + 1, '\x7b' :: s => do
      let (assignments, s) ← inlineAssignments (value budget depth) budget s
      let members ← Section.fill ⟨.none, assignments⟩ []
      return (.table .inline members, s)
  | _, s => scalar s

/-! ## Lines -/

def header (s : List Char) : Option (Header × List Char) :=
  match s with
  | '[' :: s => do
      let ((path, name), s) ← key s
      return (.series path name, ← expect ']' (← expect ']' s))
  | s => do
      let ((path, name), s) ← key s
      return (.table path name, ← expect ']' s)

/--
The sections of a document, in their order: `done` holds those complete, last
one first, and `found` the assignments so far of the one with header `current`.
-/
def sections (done : List Section) (current : Header) (found : List Assignment) :
    Nat → List Char → Option (List Section)
  | 0, _ => none
  | budget + 1, s =>
      let soFar := fun () => Section.mk current found.reverse :: done
      match skipSpace s with
      | [] => some (soFar ()).reverse
      | '\n' :: s => sections done current found budget s
      | '#' :: s => do sections done current found budget (← endLine ('#' :: s))
      | '[' :: s => do
          let (next, s) ← header s
          sections (soFar ()) next [] budget (← endLine s)
      | s => do
          let (a, s) ← assignment (value budget maxDepth) s
          sections done current (a :: found) budget (← endLine s)

/-- Every carriage return in front of a line feed goes; `read` holds what came so far. -/
def unifyBreaks (read : List Char) : List Char → List Char
  | '\r' :: '\n' :: s => unifyBreaks ('\n' :: read) s
  | c :: s => unifyBreaks (c :: read) s
  | [] => read.reverse

def dropMark : List Char → List Char
  | '\ufeff' :: s => s
  | s => s

def parse? (text : String) : Option Members := do
  let s := dropMark (unifyBreaks [] text.toList)
  (← sections [] .none [] (s.length + 1) s).foldlM Section.addTo []

end FeedReader.Toml
