import PagedListing.Web.Form
import PagedListing.Web.Host

/-!
# URLs

Absolute URLs by the rules of browsers. Blanks and control characters around the text and tabs and
line breaks in it are passed over. The special schemes have a host, take a backslash for a slash and
leave out their default port; a file URL names no host if it would name the machine itself.
-/

namespace PagedListing.Web

/-- What stands after the two slashes of a URL. -/
structure Authority where
  /-- User name and password as they stand before the at sign, empty if there are none. -/
  user : List Char
  host : Host
  port : Option Nat
  deriving DecidableEq, Inhabited

/-- A URL in its parts, each in its written form. -/
structure Url where
  scheme : String
  authority : Option Authority
  path : List Char
  query : Option (List Char)
  fragment : Option (List Char)
  deriving DecidableEq, Inhabited

/-- How the parts of a URL are read in a scheme. -/
inductive SchemeKind where
  | file
  | special
  | plain
  deriving DecidableEq

namespace SchemeKind

/-- The kind of a scheme. -/
def ofScheme (scheme : String) : SchemeKind :=
  if scheme = "file" then file
  else if ["http", "https", "ws", "wss", "ftp"].contains scheme then special
  else plain

/-- Whether a backslash counts as a slash. -/
def isSpecial (k : SchemeKind) : Bool :=
  k ≠ plain

/-- Whether a character is a slash. -/
def isSlash (k : SchemeKind) (c : Char) : Bool :=
  c = '/' || (k.isSpecial && c = '\\')

/-- Whether a character ends the authority. -/
def endsAuthority (k : SchemeKind) (c : Char) : Bool :=
  k.isSlash c || c = '?' || c = '#'

end SchemeKind

namespace Url

/-- The port that a scheme uses if none is named. -/
def defaultPort? (scheme : String) : Option Nat :=
  if scheme = "http" ∨ scheme = "ws" then some 80
  else if scheme = "https" ∨ scheme = "wss" then some 443
  else if scheme = "ftp" then some 21
  else none

/-- A byte that is encoded in a fragment. -/
def escapedInFragment (b : UInt8) : Bool :=
  Host.isControl b || b == 0x20 || b == 0x22 || b == 0x3C || b == 0x3E || b == 0x60

/-- A byte that is encoded in a path. -/
def escapedInPath (b : UInt8) : Bool :=
  escapedInFragment b || b == 0x23 || b == 0x3F || b == 0x7B || b == 0x7D

/-- A byte that is encoded in a user name or password. -/
def escapedInUser (b : UInt8) : Bool :=
  escapedInPath b || b == 0x2F || b == 0x3A || b == 0x3B || b == 0x3D || b == 0x40 ||
    (0x5B ≤ b && b ≤ 0x5E) || b == 0x7C

/-- A byte that is encoded in a query. -/
def escapedInQuery (k : SchemeKind) (b : UInt8) : Bool :=
  Host.isControl b || b == 0x20 || b == 0x22 || b == 0x23 || b == 0x3C || b == 0x3E ||
    (k.isSpecial && b == 0x27)

/-- The text without what browsers pass over. -/
def clean (s : String) : List Char :=
  let isOuter (c : Char) : Bool := c.toNat ≤ 0x20
  let inner := ((s.toList.dropWhile isOuter).reverse.dropWhile isOuter).reverse
  inner.filter fun c => c ≠ '\t' && c ≠ '\n' && c ≠ '\r'

/-- The scheme in lower case and what follows its colon. -/
def scheme? (cs : List Char) : Option (String × List Char) :=
  let isPart (c : Char) : Bool := c.isAlphanum || c = '+' || c = '-' || c = '.'
  match cs.takeWhile isPart, cs.dropWhile isPart with
  | c :: letters, ':' :: rest =>
    if c.isAlpha then some (String.ofList ((c :: letters).map Char.toLower), rest) else none
  | _, _ => none

/-- User name and password in written form; the colon goes with an empty password. -/
def userText (cs : List Char) : List Char :=
  let name := cs.takeWhile (· ≠ ':')
  let password := (cs.dropWhile (· ≠ ':')).drop 1
  encodeWith escapedInUser name ++
    (if password.isEmpty then [] else ':' :: encodeWith escapedInUser password)

/-- The characters before the last at sign, if there is one, and those after it. -/
def splitUser (cs : List Char) : Option (List Char) × List Char :=
  let after := (cs.reverse.takeWhile (· ≠ '@')).reverse
  match (cs.reverse.dropWhile (· ≠ '@')) with
  | [] => (none, after)
  | _ :: before => (some before.reverse, after)

/-- The characters of a host up to the colon before the port; a colon in brackets is no such. -/
def hostPart : Bool → List Char → List Char
  | _, [] => []
  | inBrackets, c :: cs =>
    if c = ':' ∧ !inBrackets then []
    else if c = '[' then c :: hostPart true cs
    else if c = ']' then c :: hostPart false cs
    else c :: hostPart inBrackets cs

/-- The port after a host: nothing, or a colon and a number, which may be empty. -/
def readPort (scheme : String) : List Char → Except UrlProblem (Option Nat)
  | [] => .ok none
  | _ :: digits =>
    match natInBase? 10 digits with
    | none => .error .invalidPort
    | some port =>
      if 65535 < port then .error .invalidPort
      else if digits.isEmpty ∨ defaultPort? scheme = some port then .ok none
      else .ok (some port)

/-- The authority that some characters denote, at the end of the text or not, and the characters of
the path among them: a backslash ends a port in every scheme. -/
def readAuthority (scheme : String) (k : SchemeKind) (cs : List Char) (isEnd : Bool) :
    Except UrlProblem (Authority × List Char) := do
  let (before, after) := splitUser cs
  if before = some [] ∧ after = [] ∧ !isEnd then throw .emptyHost
  let user := userText (before.getD [])
  let hostChars := hostPart false after
  let rest := after.drop hostChars.length
  if k.isSpecial ∧ hostChars = [] then throw .emptyHost
  let host ← if k.isSpecial then Host.readSpecial hostChars else Host.readOpaque hostChars
  if host = .name [] ∧ (k.isSpecial ∨ rest ≠ [] ∨ user ≠ []) then throw .emptyHost
  let port ← readPort scheme (rest.takeWhile (· ≠ '\\'))
  return (⟨user, host, port⟩, rest.dropWhile (· ≠ '\\'))

/-- A drive letter, which stands at the front of some file paths. -/
def isDriveLetter : List Char → Bool
  | [c, d] => c.isAlpha && (d = ':' || d = '|')
  | _ => false

/-- Whether a written segment means the segment itself. -/
def isSingleDot (segment : List Char) : Bool :=
  let lower := String.ofList (segment.map Char.toLower)
  lower = "." || lower = "%2e"

/-- Whether a written segment means the one above. -/
def isDoubleDot (segment : List Char) : Bool :=
  let lower := String.ofList (segment.map Char.toLower)
  ["..", ".%2e", "%2e.", "%2e%2e"].contains lower

/-- The segments, in reverse, without the last one; a drive letter stays. -/
def dropSegment (k : SchemeKind) : List (List Char) → List (List Char)
  | [] => []
  | [only] => if k = .file ∧ isDriveLetter only then [only] else []
  | _ :: rest => rest

/-- Put a written segment after the others, which are in reverse. A segment of dots leaves an empty
segment behind if it is the last one. -/
def addSegment (k : SchemeKind) (seen : List (List Char)) (segment : List Char) (isLast : Bool) :
    List (List Char) :=
  if isDoubleDot segment then
    let up := dropSegment k seen
    if isLast then [] :: up else up
  else if isSingleDot segment then
    if isLast then [] :: seen else seen
  else match k, segment with
    | .file, [c, '|'] => if c.isAlpha then [c, ':'] :: seen else segment :: seen
    | _, _ => segment :: seen

/-- The segments of a path between slashes. -/
def segments (k : SchemeKind) : List Char → List (List Char)
  | [] => [[]]
  | c :: cs => if k.isSlash c then [] :: segments k cs else Text.extendFirst c (segments k cs)

/-- Put all written segments after one another. -/
def addSegments (k : SchemeKind) : List (List Char) → List (List Char) → List (List Char)
  | seen, [] => seen
  | seen, [last] => addSegment k seen last true
  | seen, segment :: next :: rest =>
    addSegments k (addSegment k seen segment false) (next :: rest)

/-- The path that some characters denote, without the slash at its front. -/
def readSegments (k : SchemeKind) (cs : List Char) : List Char :=
  let written := (segments k cs).map (encodeWith escapedInPath)
  let kept := (addSegments k [] written).reverse
  let kept := if k = .file then
      let rest := kept.dropWhile (·.isEmpty)
      if rest.isEmpty then [[]] else rest
    else kept
  '/' :: Text.joinWith ['/'] kept

/-- The path after an authority. -/
def readPath (k : SchemeKind) (cs : List Char) : List Char :=
  match cs with
  | [] => if k.isSpecial then ['/'] else []
  | c :: rest => if k.isSlash c then readSegments k rest else readSegments k cs

/-- The parts before and after the first of some characters, which goes with neither. -/
def cutAt (c : Char) (cs : List Char) : List Char × Option (List Char) :=
  match cs.dropWhile (· ≠ c) with
  | [] => (cs, none)
  | _ :: rest => (cs.takeWhile (· ≠ c), some rest)

/-- The URL with an authority and a path whose text is still to be read, up to its end. -/
def withPath (scheme : String) (k : SchemeKind) (authority : Option Authority)
    (read : List Char → List Char) (cs : List Char) : Url :=
  let (front, fragment) := cutAt '#' cs
  let (path, query) := cutAt '?' front
  { scheme
    authority
    path := read path
    query := query.map (encodeWith (escapedInQuery k))
    fragment := fragment.map (encodeWith escapedInFragment) }

/-- A URL with an authority, of which the characters after the slashes are given. -/
def readHierarchical (scheme : String) (k : SchemeKind) (cs : List Char) : Except UrlProblem Url := do
  let rest := cs.dropWhile (!k.endsAuthority ·)
  let (authority, front) ←
    readAuthority scheme k (cs.takeWhile (!k.endsAuthority ·)) rest.isEmpty
  return withPath scheme k (some authority) (readPath k) (front ++ rest)

/-- The authority of a file URL, which has neither user nor port. -/
def readFileHost (cs : List Char) : Except UrlProblem Authority := do
  if cs.isEmpty then return ⟨[], .name [], none⟩
  else
    let host ← Host.readSpecial cs
    return ⟨[], if host = Host.localName then .name [] else host, none⟩

/-- Whether a path has a drive letter among its segments. -/
def hasDriveLetter (cs : List Char) : Bool :=
  (segments .file (cs.takeWhile fun c => c ≠ '?' && c ≠ '#')).any isDriveLetter

/-- A file URL, of which the characters after the colon are given. A path with a drive letter is on
the machine itself. -/
def readFile (cs : List Char) : Except UrlProblem Url := do
  let k := SchemeKind.file
  let onPath (authority : Authority) (rest : List Char) : Url :=
    withPath "file" k (some authority) (readPath k) rest
  let noHost : Authority := ⟨[], .name [], none⟩
  match cs with
  | a :: b :: rest =>
    if k.isSlash a ∧ k.isSlash b then
      let hostChars := rest.takeWhile (!k.endsAuthority ·)
      if isDriveLetter hostChars then return onPath noHost rest
      else
        let authority ← readFileHost hostChars
        let rest := rest.drop hostChars.length
        return onPath (if hasDriveLetter rest then noHost else authority) rest
    else return onPath noHost cs
  | _ => return onPath noHost cs

/-- A URL of a scheme that is not special, of which the characters after the colon are given. -/
def readPlain (scheme : String) (cs : List Char) : Except UrlProblem Url :=
  match cs with
  | '/' :: '/' :: rest => readHierarchical scheme .plain rest
  | '/' :: _ => .ok (withPath scheme .plain none (readPath .plain) cs)
  | _ => .ok (withPath scheme .plain none (encodeWith Host.isControl) cs)

/-- The URL that a text denotes. -/
def read (s : String) : Except UrlProblem Url :=
  match scheme? (clean s) with
  | none => .error .noScheme
  | some (scheme, rest) =>
    match SchemeKind.ofScheme scheme with
    | .file => readFile rest
    | .special => readHierarchical scheme .special (rest.dropWhile SchemeKind.special.isSlash)
    | .plain => readPlain scheme rest

/-- The text of an authority. -/
def authorityText (a : Authority) : List Char :=
  (if a.user.isEmpty then [] else a.user ++ ['@']) ++ a.host.text ++
    match a.port with
    | some port => ':' :: Nat.toDigits 10 port
    | none => []

/-- What comes before the query. -/
def front (u : Url) : List Char :=
  let authority := match u.authority with
    | some a => '/' :: '/' :: authorityText a
    | none => if "//".toList.isPrefixOf u.path then ['/', '.'] else []
  u.scheme.toList ++ ':' :: authority ++ u.path

/-- An optional part behind its mark. -/
def marked (mark : Char) : Option (List Char) → List Char
  | some cs => mark :: cs
  | none => []

/-- The URL as a text. -/
def text (u : Url) : String :=
  String.ofList (u.front ++ marked '?' u.query ++ marked '#' u.fragment)

/-- The URL with pairs appended to its query. -/
def appendPairs (u : Url) (pairs : List (String × String)) : Url :=
  { u with query := some (Form.appendPairs (u.query.getD []) pairs) }

/-- The query of a URL in its text. -/
def queryOf (s : String) : String :=
  let (front, _) := cutAt '#' s.toList
  match (cutAt '?' front).2 with
  | some query => String.ofList query
  | none => ""

end Url

end PagedListing.Web
