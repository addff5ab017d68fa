import PagedListing.Web.Address
import PagedListing.Web.Domain
import PagedListing.Web.Percent
import PagedListing.Web.UrlProblem

/-!
# Hosts

The host of a URL: a name, or an address. Where the scheme is one of the special ones the name is a
domain name in its ASCII form; elsewhere it is kept as it is, characters beyond ASCII and control
characters percent-encoded.
-/

namespace PagedListing.Web

/-- A host. -/
inductive Host where
  | name (cs : List Char)
  | ipv4 (a : Ipv4)
  | ipv6 (a : Ipv6)
  deriving DecidableEq, Inhabited

namespace Host

/-- The host as it stands in a URL. -/
def text : Host → List Char
  | name cs => cs
  | ipv4 a => a.text
  | ipv6 a => a.text

/-- The name of the machine itself, by which file URLs name no host. -/
def localName : Host := name "localhost".toList

/-- The address in brackets that a text begins with, if it begins with a bracket. -/
def readBracketed (cs : List Char) : Except UrlProblem Host :=
  let body := cs.drop 1
  match body.getLast? with
  | some ']' =>
    match Ipv6.read? body.dropLast with
    | some a => .ok (ipv6 a)
    | none => .error .invalidIpv6
  | _ => .error .invalidIpv6

/-- The host of a special URL. -/
def readSpecial (cs : List Char) : Except UrlProblem Host :=
  match cs with
  | '[' :: _ => readBracketed cs
  | _ =>
    match Domain.toAscii? (Text.utf8Decode (percentDecode (Text.utf8Encode cs))) with
    | none => .error .invalidDomain
    | some [] => .error .emptyHost
    | some domain =>
      if Ipv4.isMeant domain then
        match Ipv4.read? domain with
        | some a => .ok (ipv4 a)
        | none => .error .invalidIpv4
      else .ok (name domain)

/-- A character that a host outside the special URLs may not have. -/
def isForbidden (c : Char) : Bool :=
  "\x00\t\n\r #/:<>?@[\\]^|".toList.contains c

/-- A byte that is percent-encoded in every part of a URL. -/
def isControl (b : UInt8) : Bool :=
  b < 0x20 || b ≥ 0x7F

/-- The host of a URL that is not special. -/
def readOpaque (cs : List Char) : Except UrlProblem Host :=
  match cs with
  | '[' :: _ => readBracketed cs
  | _ =>
    if cs.any isForbidden then .error .invalidHostCharacter
    else .ok (name (encodeWith isControl cs))

end Host

end PagedListing.Web
