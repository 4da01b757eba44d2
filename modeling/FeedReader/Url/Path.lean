import FeedReader.Url.Encoding

/-!
# Paths

A path is built from its front, segment by segment: a single dot adds nothing,
a double dot takes the last segment away, any other segment is escaped and
added.  A path is kept as its text; it is worked on last character first.
-/

namespace FeedReader.Url

inductive SchemeKind where
  | file
  /-- Web schemes: they have a host, and a backslash counts as a slash. -/
  | special
  | other
  deriving DecidableEq, Repr

def SchemeKind.of (scheme : List Char) : SchemeKind :=
  let scheme := String.ofList scheme
  if scheme = "file" then .file
  else if ["http", "https", "ws", "wss", "ftp"].contains scheme then .special
  else .other

def SchemeKind.isSpecial (kind : SchemeKind) : Bool := kind ≠ .other

def isAsciiLetter (c : Char) : Bool := ('a' ≤ c && c ≤ 'z') || ('A' ≤ c && c ≤ 'Z')

/-! ## Drive letters -/

def isDriveLetter : List Char → Bool
  | [letter, mark] => isAsciiLetter letter && (mark = ':' || mark = '|')
  | _ => false

def startsWithDrive : List Char → Bool
  | letter :: mark :: rest =>
      isDriveLetter [letter, mark] && rest.head?.all fun c => "/\\?#".toList.contains c
  | _ => false

/-! ## Dot segments -/

def isSingleDot (s : List Char) : Bool :=
  [".", "%2e", "%2E"].contains (String.ofList s)

def isDoubleDot (s : List Char) : Bool :=
  ["..", "%2e%2e", "%2e%2E", "%2E%2e", "%2E%2E", "%2e.", "%2E.", ".%2e", ".%2E"].contains
    (String.ofList s)

def lastSegment (path : List Char) : List Char := (path.takeWhile (· ≠ '/')).reverse

/-- The slash at the end may go: it is not the first one, nor does it close a drive letter. -/
def mayDropSlash (path : List Char) : Bool :=
  match path with
  | '/' :: before => before.contains '/' && !startsWithDrive (lastSegment before ++ ['/'])
  | _ => false

/-- Take away what follows the last slash, a drive letter of a file excepted. -/
def shorten (kind : SchemeKind) (path : List Char) : List Char :=
  if kind = .file && isDriveLetter (lastSegment path) && path.head? = some ':' then path
  else path.dropWhile (· ≠ '/')

def endsWithSlash (path : List Char) : Bool := path.head? = some '/'

/-! ## Reading segments -/

/-- A path under way, last character first, and whether it began with a drive letter. -/
structure PathState where
  path : List Char := []
  hasDrive : Bool := false
  deriving DecidableEq, Repr

namespace PathState

/-- Add a segment as it is; `closed` if a slash follows it. -/
def append (st : PathState) (segment : List Char) (closed : Bool) : PathState :=
  let path := segment.reverse ++ st.path
  { st with path := if closed then '/' :: path else path }

/-- Add an escaped segment.  A drive letter in front of a file's path has a colon. -/
def add (kind : SchemeKind) (st : PathState) (segment : List Char) (closed : Bool) : PathState :=
  if isDoubleDot segment then
    let path := shorten kind (if mayDropSlash st.path then st.path.drop 1 else st.path)
    { st with path := if closed && !endsWithSlash path then '/' :: path else path }
  else if isSingleDot segment then
    if endsWithSlash st.path then st else { st with path := '/' :: st.path }
  else if kind = .file && st.path = ['/'] && isDriveLetter segment then
    { st.append (segment.take 1 ++ [':']) closed with hasDrive := true }
  else st.append segment closed

end PathState

def isTabOrNewline (c : Char) : Bool := c = '\t' || c = '\n' || c = '\r'

def dropBreaks (s : List Char) : List Char := s.filter fun c => !isTabOrNewline c

def skipBreaks (s : List Char) : List Char := s.dropWhile isTabOrNewline

/--
A drive letter with a tab or line end after it is a segment of its own, even
without a slash; what follows it is taken as it is.
-/
def brokenDrive? (segment : List Char) : Option (List Char) :=
  match skipBreaks segment with
  | letter :: rest =>
      match skipBreaks rest with
      | ':' :: mark :: rest =>
          if isAsciiLetter letter && isTabOrNewline mark && !(dropBreaks rest).isEmpty then
            some (letter :: ':' :: '/' :: dropBreaks rest)
          else none
      | _ => none
  | [] => none

def PathState.read (kind : SchemeKind) (st : PathState) (segment : List Char) (closed : Bool) :
    PathState :=
  match if kind = .file && st.path = ['/'] then brokenDrive? segment else none with
  | some segment => st.append (percentEncode inPath segment) closed
  | none => st.add kind (percentEncode inPath (dropBreaks segment)) closed

def PathState.readAll (kind : SchemeKind) (st : PathState) : List (List Char) → PathState
  | [] => st
  | [segment] => st.read kind segment false
  | segment :: rest => (st.read kind segment true).readAll kind rest

/-- A file's path does not begin with several slashes. -/
def singleRoot (kind : SchemeKind) (path : List Char) : List Char :=
  if kind = .file then '/' :: path.dropWhile (· = '/') else path

def isSeparator (kind : SchemeKind) (c : Char) : Bool :=
  c = '/' || (kind.isSpecial && c = '\\')

def splitPath (kind : SchemeKind) (s : List Char) : List (List Char) :=
  s.foldr (fun c pieces =>
    if isSeparator kind c then [] :: pieces
    else
      match pieces with
      | piece :: pieces => (c :: piece) :: pieces
      | [] => [[c]]) [[]]

def readPath (kind : SchemeKind) (root s : List Char) : List Char × Bool :=
  let st := PathState.readAll kind { path := root.reverse } (splitPath kind s)
  (singleRoot kind st.path.reverse, st.hasDrive)

/--
Add one segment that may hold any text: slashes and percent signs are escaped,
tabs and line ends are dropped.  A lone dot or double dot is left out.
-/
def pushSegment (kind : SchemeKind) (path : List Char) (segment : String) : List Char :=
  if segment = "." || segment = ".." then path
  else
    let path := if path.length = 1 then path else path ++ ['/']
    let escaped := percentEncode (if kind.isSpecial then inSpecialSegment else inSegment)
      (dropBreaks segment.toList)
    let st : PathState := { path := path.reverse }
    singleRoot kind (st.add kind escaped false).path.reverse

def segmentsOf (path : List Char) : List (List Char) := (path.drop 1).splitOn '/'

end FeedReader.Url
