import PagedListing.Error
import PagedListing.Web.Url

/-!
# Configuration

What a listing needs beside the request: the origin of its links, the page size and its bound, and
the field whose direction decides which way a cursor walks; and the release of the library.
-/

namespace PagedListing

/-- The configuration of a listing. -/
structure Config where
  /-- The scheme of links. -/
  protocol : String := "http"
  /-- The host of links, with a port if it has one. -/
  host : String := "localhost:3000"
  /-- The page size of a request that names none. -/
  defaultTake : UInt32 := 20
  /-- The bound for page sizes. -/
  maxTake : Option UInt32 := none
  /-- The field whose direction decides which way a cursor walks. -/
  cursorOrderField : String := "createdAt"
  deriving DecidableEq, Inhabited

namespace Config

/-- The origin of links. -/
def origin (c : Config) : String :=
  c.protocol ++ "://" ++ c.host

/-- The default configuration with an origin of its own, both parts optional. -/
def ofOrigin (protocol host : Option String) : Config :=
  let c : Config := {}
  { c with protocol := protocol.getD c.protocol, host := host.getD c.host }

/-- Whether a protocol is a word of ASCII letters. -/
def isProtocol (protocol : String) : Bool :=
  !protocol.isEmpty && protocol.toList.all Char.isAlpha

/-- Whether a host is not empty and has no slash. -/
def isHost (host : String) : Bool :=
  !host.isEmpty && !host.toList.contains '/'

/-- Check the parts of the origin, the origin as a URL, and the page sizes. -/
def validate (c : Config) : Except Error Unit := do
  if !isProtocol c.protocol then
    throw (.config ("Invalid protocol '" ++ c.protocol ++ "'"))
  if !isHost c.host then
    throw (.config ("Invalid host '" ++ c.host ++ "'"))
  match Web.Url.read c.origin with
  | .error problem =>
    throw (.config ("Invalid origin '" ++ c.origin ++ "': " ++ problem.message))
  | .ok _ => pure ()
  if c.defaultTake = 0 then
    throw (.config "default_take must be positive")
  match c.maxTake with
  | some bound =>
    if bound < c.defaultTake then
      throw (.config ("max_take (" ++ toString bound ++ ") is smaller than default_take (" ++
        toString c.defaultTake ++ ")"))
  | none => pure ()

/-- The configuration, if it passes all checks. -/
def checked (c : Config) : Except Error Config := do
  c.validate
  return c

/-- The configuration that the environment names by its origin. -/
def ofEnvironment (protocol host : Option String) : Except Error Config :=
  (ofOrigin protocol host).checked

end Config

namespace Release

/-- The name under which the library announces itself. -/
def name : String := "solidafy-query"

/-- The version that it announces. -/
def version : String := "0.1.0"

end Release

end PagedListing
