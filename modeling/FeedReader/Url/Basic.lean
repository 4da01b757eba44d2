import FeedReader.Text.Decimal
import FeedReader.Url.Host
import FeedReader.Url.Path

/-!
# URLs

A URL is read into its parts and written from them.  A URL without authority
whose path does not begin with a slash is flat: nothing can be appended to it.
-/

namespace FeedReader.Url

structure Authority where
  username : List Char := []
  password : List Char := []
  host : Option Host := none
  port : Option Nat := none
  deriving DecidableEq, Repr

end FeedReader.Url

namespace FeedReader

structure Url where
  scheme : List Char
  authority : Option Url.Authority := none
  path : List Char
  query : Option (List Char) := none
  fragment : Option (List Char) := none
  deriving DecidableEq, Repr

end FeedReader

namespace FeedReader.Url

/-! ## Writing -/

def Authority.userinfo (a : Authority) : List Char :=
  if a.username.isEmpty && a.password.isEmpty then []
  else a.username ++ (if a.password.isEmpty then [] else ':' :: a.password) ++ ['@']

def Authority.text (a : Authority) : List Char :=
  a.userinfo ++ (a.host.map Host.text).getD [] ++
    (a.port.map fun p => ':' :: (toString p).toList).getD []

/-- A path that begins with two slashes must not be taken for an authority. -/
def pathGuard (u : Url) : List Char :=
  if u.authority.isNone && ['/', '/'].isPrefixOf u.path then ['/', '.'] else []

def part (mark : Char) : Option (List Char) → List Char
  | none => []
  | some s => mark :: s

def toChars (u : Url) : List Char :=
  u.scheme ++ ':' :: (u.authority.map fun a => '/' :: '/' :: a.text).getD [] ++
    u.pathGuard ++ u.path ++ part '?' u.query ++ part '#' u.fragment

def text (u : Url) : String := String.ofList u.toChars

def kind (u : Url) : SchemeKind := SchemeKind.of u.scheme

def isFlat (u : Url) : Bool := u.authority.isNone && u.path.head? ≠ some '/'

/-! ## Reading -/

def isSchemeChar (c : Char) : Bool :=
  isAsciiLetter c || Text.isDigit c || c = '+' || c = '-' || c = '.'

def splitScheme (s : List Char) : Option (List Char × List Char) :=
  let scheme := s.takeWhile isSchemeChar
  match s.dropWhile isSchemeChar with
  | ':' :: rest =>
      if scheme.head?.any isAsciiLetter then some (scheme.map Char.toLower, rest) else none
  | _ => none

def readTail (kind : SchemeKind) (s : List Char) : Option (List Char) × Option (List Char) :=
  let escaped := if kind.isSpecial then inSpecialQuery else inQuery
  let fragment :=
    match s.dropWhile (· ≠ '#') with
    | '#' :: fragment => some (percentEncode inFragment fragment)
    | _ => none
  match s.takeWhile (· ≠ '#') with
  | '?' :: query => (some (percentEncode escaped query), fragment)
  | _ => (none, fragment)

def isTailMark (c : Char) : Bool := c = '?' || c = '#'

def withTail (scheme : List Char) (authority : Option Authority) (path tail : List Char) : Url :=
  let (query, fragment) := readTail (SchemeKind.of scheme) tail
  { scheme, authority, path, query, fragment }

def defaultPort? (scheme : List Char) : Option Nat :=
  let scheme := String.ofList scheme
  if scheme = "http" || scheme = "ws" then some 80
  else if scheme = "https" || scheme = "wss" then some 443
  else if scheme = "ftp" then some 21
  else none

/-- The port, less the scheme's own; a backslash ends it. -/
def readPort (scheme s : List Char) : Except UrlError (Option Nat × List Char) :=
  let digits := s.takeWhile Text.isDigit
  let rest := s.dropWhile Text.isDigit
  if rest.head?.any (· ≠ '\\') then .error .badPort
  else
    match Text.numeral? digits with
    | none => .ok (none, rest)
    | some port =>
        if 65535 < port then .error .badPort
        else .ok (if defaultPort? scheme = some port then none else some port, rest)

/-- User name and password, up to the last at sign, and what follows it. -/
def splitUserinfo (s : List Char) : Option (List Char × List Char) :=
  if s.contains '@' then
    let after := (s.reverse.takeWhile (· ≠ '@')).reverse
    some (s.take (s.length - after.length - 1), after)
  else none

def splitHost (inside : Bool) : List Char → List Char × List Char
  | [] => ([], [])
  | c :: s =>
      if c = ':' && !inside then ([], c :: s)
      else
        let inside := if c = '[' then true else if c = ']' then false else inside
        let (host, rest) := splitHost inside s
        (c :: host, rest)

def readAuthority (scheme s : List Char) (atEnd : Bool) :
    Except UrlError (Authority × List Char) := do
  let special := (SchemeKind.of scheme).isSpecial
  let (userinfo, hostport) := match splitUserinfo s with
    | some (userinfo, hostport) => (some userinfo, hostport)
    | none => (none, s)
  if userinfo = some [] && hostport.isEmpty && !atEnd then throw .emptyHost
  let userinfo := userinfo.getD []
  let username := percentEncode inUserinfo (userinfo.takeWhile (· ≠ ':'))
  let password := percentEncode inUserinfo ((userinfo.dropWhile (· ≠ ':')).drop 1)
  let (host, rest) := splitHost false hostport
  if special && host.isEmpty then throw .emptyHost
  let host ← if special then Host.parse host else Host.parseLoose host
  let host := if host = .domain [] then none else some host
  if host.isNone && rest.head? = some ':' then throw .emptyHost
  let (port, rest) ← match rest with
    | ':' :: port => readPort scheme port
    | rest => pure (none, rest)
  if host.isNone && !(username.isEmpty && password.isEmpty) then throw .emptyHost
  return ({ username, password, host, port }, rest)

def afterSlashes (scheme s : List Char) : Except UrlError Url := do
  let kind := SchemeKind.of scheme
  let isEnd := fun c => isSeparator kind c || isTailMark c
  let (authority, leftover) ← readAuthority scheme (s.takeWhile fun c => !isEnd c)
    (!s.any isEnd)
  let rest := leftover ++ s.dropWhile fun c => !isEnd c
  let body := rest.takeWhile fun c => !isTailMark c
  let tail := rest.dropWhile fun c => !isTailMark c
  let path :=
    if kind.isSpecial then
      (readPath kind ['/'] (if body.head?.any (isSeparator kind) then body.drop 1 else body)).1
    else if body.isEmpty then []
    else if body.head? = some '/' then (readPath kind [] body).1
    else (readPath kind ['/'] body).1
  return withTail scheme (some authority) path tail

def isSlash (c : Char) : Bool := c = '/' || c = '\\'

/-- A file, from where its path begins; a host before a drive letter does not count. -/
def fileAt (host : Option Host) (root s : List Char) : Url :=
  let (path, hasDrive) := readPath .file root (s.takeWhile fun c => !isTailMark c)
  withTail "file".toList (some { host := if hasDrive then none else host }) path
    (dropBreaks (s.dropWhile fun c => !isTailMark c))

def fileAfterSlashes (s : List Char) : Except UrlError Url :=
  let isEnd := fun c => isSlash c || isTailMark c
  let name := dropBreaks (s.takeWhile fun c => !isEnd c)
  let rest := s.dropWhile fun c => !isEnd c
  if name.isEmpty then .ok (fileAt none ['/'] rest)
  else if isDriveLetter name then .ok (fileAt none ['/'] s)
  else
    (Host.parse name).map fun host =>
      if host = .domain "localhost".toList then fileAt none ['/'] rest
      else fileAt (some host) ['/'] (if rest.head?.any isSlash then rest.drop 1 else rest)

def readFile (s : List Char) : Except UrlError Url :=
  match skipBreaks s with
  | a :: rest =>
      if isSlash a then
        match skipBreaks rest with
        | b :: afterBoth =>
            if isSlash b then fileAfterSlashes afterBoth else .ok (fileAt none [] s)
        | [] => .ok (fileAt none [] s)
      else .ok (fileAt none ['/'] s)
  | [] => .ok (fileAt none ['/'] s)

/-- Read an absolute URL.  Blanks around it, tabs and line ends do not count. -/
def parse (input : String) : Except UrlError Url :=
  let isOuter := fun (c : Char) => c.toNat ≤ 0x20
  let trimmed := ((input.toList.dropWhile isOuter).reverse.dropWhile isOuter).reverse
  match splitScheme (dropBreaks trimmed) with
  | none => .error .relativeWithoutBase
  | some (scheme, rest) =>
      match SchemeKind.of scheme with
      | .file => readFile ((trimmed.dropWhile (· ≠ ':')).drop 1)
      | .special => afterSlashes scheme (rest.dropWhile isSlash)
      | .other =>
          let body := rest.takeWhile fun c => !isTailMark c
          let tail := rest.dropWhile fun c => !isTailMark c
          match rest with
          | '/' :: '/' :: rest => afterSlashes scheme rest
          | '/' :: _ => .ok (withTail scheme none (readPath .other ['/'] (body.drop 1)).1 tail)
          | _ => .ok (withTail scheme none (percentEncode inControls body) tail)

/-! ## Changing the path and the query -/

def asDirectory (u : Url) : Url :=
  if u.path.getLast? = some '/' then u
  else if u.isFlat then
    { u with path := if u.path.isEmpty then "%2F".toList else u.path ++ ['/'] }
  else { u with path := (readPath u.kind [] (u.path ++ ['/'])).1 }

def below (u : Url) (folder : List Char) (segments : List String) : Except UrlError Url :=
  if u.isFlat then .error .relativeToFlatBase
  else .ok { u with
    path := segments.foldl (pushSegment u.kind) (u.path ++ folder)
    query := none
    fragment := none }

def withPairs (u : Url) (pairs : List (String × String)) : Url :=
  { u with query := if pairs.isEmpty then none else some (formQuery pairs) }

end FeedReader.Url
