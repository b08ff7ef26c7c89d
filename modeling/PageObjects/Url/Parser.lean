/-
  PageObjects.Url.Parser

  Reading addresses. `Url.parse` reads a whole address, `Url.join` one that may be
  relative to another. Control characters and spaces around the text do not count,
  nor do tabs and line breaks anywhere in it.
-/

import PageObjects.Url.Basic
import PageObjects.Url.Host
import PageObjects.Url.Path

namespace PageObjects
namespace Url

/-! ## Parts of the text -/

/-- The characters of an address that count. -/
def significant (s : String) : List Char :=
  let isEdge (c : Char) : Bool := c.toNat ≤ 0x20
  let trimmed := ((s.toList.dropWhile isEdge).reverse.dropWhile isEdge).reverse
  trimmed.filter fun c => !(c == '\t' || c == '\n' || c == '\r')

/-- The scheme of an address, and what stands behind its colon. -/
def scheme? (s : List Char) : Option (String × List Char) :=
  let isSchemeChar (c : Char) : Bool := c.isAlphanum || c == '+' || c == '-' || c == '.'
  match s with
  | [] => none
  | c :: _ =>
    if c.isAlpha then
      match s.dropWhile isSchemeChar with
      | ':' :: rest => some (String.ofList ((s.takeWhile isSchemeChar).map Char.toLower), rest)
      | _ => none
    else none

/-- What kind of scheme an address has. -/
inductive SchemeKind where
  | special
  | file
  | other
deriving DecidableEq

/-- The kind of a scheme. -/
def SchemeKind.of (scheme : String) : SchemeKind :=
  if isSpecialScheme scheme then .special else if isFileScheme scheme then .file else .other

/-- Whether a backslash is a slash. -/
def SchemeKind.isSpecial : SchemeKind → Bool
  | .other => false
  | _ => true

/-- Whether `c` is a slash or a backslash. -/
def isSlash (c : Char) : Bool := c == '/' || c == '\\'

/-- The query and the fragment, from the mark of the first of them. -/
def queryAndFragment (kind : SchemeKind) (s : List Char) : Option String × Option String :=
  let fragment (s : List Char) := String.ofList (Percent.encode Percent.inFragment s)
  let set := if kind.isSpecial then Percent.inSpecialQuery else Percent.inQuery
  match s with
  | '?' :: rest =>
    let (query, behind) := Text.cut '#' rest
    (some (String.ofList (Percent.encode set query)), behind.map fragment)
  | '#' :: rest => (none, some (fragment rest))
  | _ => (none, none)

/-- Completes an address by a path read onto `start`, a query and a fragment. -/
def withPath (kind : SchemeKind) (scheme : String) (authority : Option Authority)
    (start : String) (s : List Char) : Url :=
  let (written, rest) := UrlPath.body s
  let (query, fragment) := queryAndFragment kind rest
  { scheme, authority, query, fragment
    path := UrlPath.extend kind.isSpecial (kind == .file) start written }

/-! ## Servers -/

/-- The user name and the password, encoded, with the `@` behind them. -/
def userinfo (s : List Char) : String :=
  let encode := Percent.encode Percent.inUserinfo
  match Text.cut ':' s with
  | (name, some (c :: password)) =>
    String.ofList (encode name ++ ':' :: encode (c :: password) ++ ['@'])
  | (name, _) => if name.isEmpty then "" else String.ofList (encode name ++ ['@'])

/-- Splits a text behind its last `@`. -/
def splitUserinfo? (s : List Char) : Option (List Char × List Char) :=
  match s.reverse.dropWhile (· != '@') with
  | [] => none
  | _ :: before => some (before.reverse, (s.reverse.takeWhile (· != '@')).reverse)

/-- The length of a host: up to a colon outside brackets. -/
def hostLength (inBrackets : Bool) : List Char → Nat
  | [] => 0
  | c :: rest =>
    if c = ':' ∧ ¬inBrackets then 0
    else hostLength (if c = '[' then true else if c = ']' then false else inBrackets) rest + 1

/-- The port behind a colon; `none` is the port that the scheme implies. -/
def port (scheme : String) (s : List Char) : Except UrlFault (Option Nat) :=
  if s.isEmpty then .ok none
  else
    match Text.digitsNat? 10 s with
    | none => .error .invalidPort
    | some n =>
      if 65535 < n then .error .invalidPort
      else .ok (if defaultPort? scheme = some n then none else some n)

/-- The host and the port in the text between the user and the path. -/
def hostAndPort (kind : SchemeKind) (scheme : String) (s : List Char) :
    Except UrlFault (String × Option Nat) := do
  let written := s.take (hostLength false s)
  let rest := s.drop (hostLength false s)
  if kind == .special && written.isEmpty then .error .emptyHost
  let host ← if kind == .special then Host.parseSpecial written else Host.parseOpaque written
  match rest with
  | ':' :: digits =>
    if host.isEmpty then .error .emptyHost
    .ok (host, ← port scheme digits)
  | _ => .ok (host, none)

/-- Reads an address behind the two slashes before its server. -/
def behindSlashes (kind : SchemeKind) (scheme : String) (s : List Char) : Except UrlFault Url := do
  let inServer (c : Char) : Bool :=
    !(c == '/' || c == '?' || c == '#' || (kind.isSpecial && c == '\\'))
  let server := s.takeWhile inServer
  let rest := s.dropWhile inServer
  let (user, hostText) := (splitUserinfo? server).getD ([], server)
  if user.isEmpty && (splitUserinfo? server).isSome && hostText.isEmpty && !rest.isEmpty then
    .error .emptyHost
  let (hostText, rest) := splitPortTail hostText rest
  let (host, port) ← hostAndPort kind scheme hostText
  if host.isEmpty && !(userinfo user).isEmpty then .error .emptyHost
  let authority : Authority := { userinfo := userinfo user, host, port }
  match kind, rest with
  | .other, [] => .ok (withPath kind scheme authority "" [])
  | .other, c :: _ =>
    if c = '?' ∨ c = '#' ∨ c = '/' then .ok (withPath kind scheme authority "" rest)
    else .ok (withPath kind scheme authority "/" rest)
  | _, c :: behind =>
    .ok (withPath kind scheme authority "/" (if isSlash c then behind else rest))
  | _, [] => .ok (withPath kind scheme authority "/" [])
where
  /-- A backslash ends a port also where it is no slash. -/
  splitPortTail (hostText rest : List Char) : List Char × List Char :=
    let tail := hostText.drop (hostLength false hostText)
    let digits := tail.takeWhile (· != '\\')
    (hostText.take (hostLength false hostText) ++ digits, tail.drop digits.length ++ rest)

/-! ## Local files -/

/-- Whether the text starts with the letter of a drive as a segment. -/
def startsWithDrive (s : List Char) : Bool :=
  UrlPath.isDrive (s.takeWhile fun c => !(isSlash c || c == '?' || c == '#'))

/-- An address of a file on the given host. -/
def fileOn (host start : String) (s : List Char) : Url :=
  withPath .file "file" (some { userinfo := "", host, port := none }) start s

/-- The host of a file; the own host has no name. -/
def fileHost (s : List Char) : Except UrlFault String :=
  if s.isEmpty then .ok ""
  else (Host.parseSpecial s).map fun host => if host = "localhost" then "" else host

/-- The address of a file whose path is read behind the slash of its host. A path that starts with
    the letter of a drive leaves no host. -/
def fileOnHost (host : String) (s : List Char) : Url :=
  let path := UrlPath.joined true true "/" (UrlPath.body s).1
  fileOn (if UrlPath.leadsToDrive path then "" else host) "/" s

/-- Reads the address of a file behind two slashes. -/
def fileBehindSlashes (s : List Char) : Except UrlFault Url := do
  if startsWithDrive s then .ok (fileOn "" "/" s)
  else
    let inHost (c : Char) : Bool := !(isSlash c || c == '?' || c == '#')
    let host ← fileHost (s.takeWhile inHost)
    match s.dropWhile inHost with
    | c :: behind => .ok (fileOnHost host (if isSlash c then behind else c :: behind))
    | [] => .ok (fileOnHost host [])

/-- Reads the address of a file behind one slash. -/
def fileBehindSlash (base : Option Url) (s : List Char) : Url :=
  match base with
  | none => fileOn "" "" s
  | some base =>
    let first := (base.path.toList.drop 1).takeWhile (· != '/')
    let host := (base.authority.map (·.host)).getD ""
    if startsWithDrive (s.drop 1) then fileOn "" "" s
    else if UrlPath.leadsToDrive base.path.toList then fileOn "" ("/" ++ String.ofList first) s
    else fileOn host "" s

/-! ## Relative addresses -/

/-- The base with another query and fragment, if the text starts with the mark of one of them or
    is empty. -/
def sameDocument? (base : Url) (s : List Char) : Option Url :=
  match s with
  | [] => some { base with fragment := none }
  | '?' :: _ =>
    let (query, fragment) := queryAndFragment (.of base.scheme) s
    some { base with query, fragment }
  | '#' :: _ => some { base with fragment := (queryAndFragment (.of base.scheme) s).2 }
  | _ => none

/-- Reads an address relative to one that is no file. -/
def relative (base : Url) (s : List Char) : Except UrlFault Url :=
  let kind := SchemeKind.of base.scheme
  match sameDocument? base s with
  | some u => .ok u
  | none =>
    match s with
    | a :: b :: rest =>
      if isSlash a && isSlash b then
        behindSlashes kind base.scheme (if a = '/' ∧ b = '/' then rest else s.dropWhile isSlash)
      else if isSlash a then .ok (withPath kind base.scheme base.authority "/" (b :: rest))
      else below kind
    | [a] =>
      if isSlash a then .ok (withPath kind base.scheme base.authority "/" []) else below kind
    | [] => below kind
where
  /-- The text read onto the path of the base without its last segment. -/
  below (kind : SchemeKind) : Except UrlFault Url :=
    let start := UrlPath.dropLast false base.path.toList.reverse
    let start := if start.isEmpty then ['/'] else start
    .ok (withPath kind base.scheme base.authority (String.ofList start.reverse) s)

/-- Reads the address of a file, relative to the address of a file if there is one. -/
def file (base : Option Url) (s : List Char) : Except UrlFault Url :=
  match s with
  | a :: b :: rest =>
    if isSlash a && isSlash b then fileBehindSlashes rest
    else if isSlash a then .ok (fileBehindSlash base s)
    else below
  | [a] => if isSlash a then .ok (fileBehindSlash base s) else below
  | [] => below
where
  /-- The text read as a path. -/
  below : Except UrlFault Url :=
    match base with
    | none => .ok (fileOn "" "/" s)
    | some base =>
      match sameDocument? base s with
      | some u => .ok u
      | none =>
        if startsWithDrive s then .ok (fileOn "" "/" s)
        else
          let start := UrlPath.dropLast true base.path.toList.reverse
          .ok (withPath .file base.scheme base.authority (String.ofList start.reverse) s)

/-! ## Whole addresses -/

/-- An address whose path has no hierarchy. -/
def opaquePath (scheme : String) (s : List Char) : Url :=
  let (written, rest) := UrlPath.body s
  let (query, fragment) := queryAndFragment .other rest
  { scheme, authority := none, query, fragment
    path := String.ofList (Percent.encode Percent.inControls written) }

/-- Reads an address behind its scheme. -/
def behindScheme (base : Option Url) (scheme : String) (s : List Char) : Except UrlFault Url :=
  match SchemeKind.of scheme with
  | .file => file (base.filter fun b => b.scheme == "file") s
  | .special =>
    match base.filter fun b => b.scheme == scheme && (s.takeWhile isSlash).length < 2 with
    | some base => relative base s
    | none => behindSlashes .special scheme (s.dropWhile isSlash)
  | .other =>
    match s with
    | '/' :: '/' :: rest => behindSlashes .other scheme rest
    | '/' :: rest => .ok (withPath .other scheme none "/" rest)
    | _ => .ok (opaquePath scheme s)

/-- Reads an address that may be relative to `base`. -/
def read (base : Option Url) (text : String) : Except UrlFault Url :=
  let s := significant text
  match scheme? s with
  | some (scheme, rest) => behindScheme base scheme rest
  | none =>
    match base with
    | none => .error .relativeWithoutBase
    | some base =>
      match s with
      | '#' :: _ => .ok { base with fragment := (queryAndFragment (.of base.scheme) s).2 }
      | _ =>
        if base.isOpaque then .error .relativeWithOpaqueBase
        else if isFileScheme base.scheme then file (some base) s
        else relative base s

/-- Reads a whole address. -/
def parse (text : String) : Except UrlFault Url :=
  read none text

/-- Reads an address relative to `base`. -/
def join (base : Url) (text : String) : Except UrlFault Url :=
  read (some base) text

end Url
end PageObjects
