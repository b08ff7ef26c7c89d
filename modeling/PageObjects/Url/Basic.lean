/-
  PageObjects.Url.Basic

  Addresses in their parts, and the text of an address. The path is kept as text;
  an opaque path is one that does not start with a slash and has no hierarchy.

    * `Url.render` is the text of an address.
    * `Url.base` is that text up to the end of the path.
    * `Url.domain` is the part between the two slashes and the path.
-/

namespace PageObjects

/-- The part of an address that names a server. -/
structure Authority where
  /-- The user name and the password with the `@` behind them, or nothing. -/
  userinfo : String
  host : String
  /-- The port, if it is not the one of the scheme. -/
  port : Option Nat
deriving DecidableEq, Repr

/-- The text of an authority. -/
def Authority.render (a : Authority) : String :=
  a.userinfo ++ a.host ++ (match a.port with
    | some port => ":" ++ toString port
    | none => "")

/-- An address. -/
structure Url where
  scheme : String
  authority : Option Authority
  path : String
  query : Option String
  fragment : Option String
deriving DecidableEq, Repr

namespace Url

/-- The port that a scheme implies. -/
def defaultPort? (scheme : String) : Option Nat :=
  if scheme = "http" ∨ scheme = "ws" then some 80
  else if scheme = "https" ∨ scheme = "wss" then some 443
  else if scheme = "ftp" then some 21
  else none

/-- Whether the scheme is well known and names servers. -/
def isSpecialScheme (scheme : String) : Bool :=
  scheme == "http" || scheme == "https" || scheme == "ws" || scheme == "wss" || scheme == "ftp"

/-- Whether the scheme is the one of local files. -/
def isFileScheme (scheme : String) : Bool :=
  scheme == "file"

/-- Whether the path has no hierarchy, so that nothing is relative to the address. -/
def isOpaque (u : Url) : Bool :=
  u.path.toList.head? != some '/' && u.authority.isNone

/-- The part of an address between the scheme and the path. A path that starts with two slashes
    is kept apart from a server name by a dot. -/
def server (u : Url) : String :=
  match u.authority with
  | some a => "//" ++ a.render
  | none => if "//".toList.isPrefixOf u.path.toList then "/." else ""

/-- The text of an address up to the end of its path. -/
def base (u : Url) : String :=
  u.scheme ++ ":" ++ u.server ++ u.path

/-- The text of an address. -/
def render (u : Url) : String :=
  u.base ++ (match u.query with
    | some query => "?" ++ query
    | none => "") ++ (match u.fragment with
    | some fragment => "#" ++ fragment
    | none => "")

/-- The server of an address with the user and the port. -/
def domain (u : Url) : String :=
  match u.authority with
  | some a => a.render
  | none => ""

end Url

end PageObjects
