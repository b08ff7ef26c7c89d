/-
  PageObjects.Url.Host

  Hosts of addresses. The host of a well-known scheme is a domain name or a numeric
  address: percent-encoding is undone, letters are folded to lower case, characters
  without meaning are dropped, and each label with characters outside ASCII is
  written in its ASCII form. The host of any other scheme is kept as it is, with
  the characters outside ASCII encoded.

  Of the mapping of international names (UTS 46) this is the part that folds case,
  drops characters and tells dots and wide forms. Three parts are left out, so that
  some hosts outside ASCII are given otherwise or refused; hosts in ASCII without
  encoded labels are not concerned.

    * Compatibility forms are kept: the ligature U+FB01 is not spelled out as two
      letters, and U+2100 is a character like others, where the mapping refuses it.
    * Characters are not composed: u and U+0308 are two characters in a label.
    * The joiners U+200C and U+200D are refused wherever they stand, also in the
      encoded label xn--mgba3gch31f060k, in which they have a place.
-/

import PageObjects.Text.Case
import PageObjects.Text.Printable
import PageObjects.Url.Fault
import PageObjects.Url.Ip
import PageObjects.Url.Percent
import PageObjects.Url.Punycode

namespace PageObjects
namespace Host

/-! ## Domain names -/

/-- The characters that a domain name ignores. -/
def ignoredRanges : Text.CodeRanges :=
  [(0xad, 0xad), (0x34f, 0x34f), (0x180b, 0x180d), (0x180f, 0x180f), (0x200b, 0x200b),
   (0x2060, 0x2060), (0x2064, 0x2064), (0xfe00, 0xfe0f), (0xfeff, 0xfeff)]

/-- A character of a domain name as it counts: dots of all scripts are dots, wide forms of ASCII
    are ASCII, letters are in lower case. The final sigma is a letter of its own, and the capital
    dotted i becomes an i with a dot of its own. A compatibility form stands for itself. -/
def mapChar (c : Char) : List Char :=
  let n := c.toNat
  if ignoredRanges.contains c then []
  else if n = 0x3002 ∨ n = 0xff0e ∨ n = 0xff61 then ['.']
  else if n = 0x3c2 then [c]
  else if n = 0x130 then ['i', Char.ofNat 0x307]
  else if 0xff01 ≤ n ∧ n ≤ 0xff5e then [Text.foldCase (Char.ofNat (n - 0xfee0))]
  else [Text.foldCase c]

/-- Whether a domain name may hold `c`. Joiners are among the characters that have no shape. -/
def allowed (c : Char) : Bool :=
  if c.toNat < 0x80 then
    !(c.toNat ≤ 0x20 || c.toNat = 0x7f || "%#/:<>?@[\\]^|".toList.contains c)
  else Text.isPrintable c

/-- Whether the text starts as an encoded label does. -/
def encodedLabel? : List Char → Option (List Char)
  | 'x' :: 'n' :: '-' :: '-' :: rest => some rest
  | _ => none

/-- A label, its letters in lower case, in its ASCII form. -/
def labelToAscii? (label : List Char) : Option (List Char) :=
  match encodedLabel? label with
  | some encoded => do
    let decoded ← Punycode.decode? encoded
    if decoded.any (0x80 ≤ ·.toNat) && decoded.all allowed && decoded.all (fun c => mapChar c == [c])
        && Punycode.encode decoded == encoded then some label
    else none
  | none =>
    if label.all (·.toNat < 0x80) then some label
    else some (['x', 'n', '-', '-'] ++ Punycode.encode label)

/-- A domain name in its ASCII form. Its characters are mapped one by one and not composed. -/
def domainToAscii? (domain : List Char) : Option (List Char) :=
  let mapped := domain.flatMap mapChar
  if mapped.all allowed then
    ((Text.parts '.' mapped).mapM labelToAscii?).map fun labels =>
      ['.'].intercalate labels
  else none

/-! ## Hosts -/

/-- The numeric address in the brackets of a host, if it has brackets. -/
def bracketed? : List Char → Option (Except UrlFault String)
  | '[' :: rest =>
    some (if rest.getLast? = some ']' then
      match Ip.parseV6? rest.dropLast with
      | some pieces => .ok (Ip.renderV6 pieces)
      | none => .error .invalidIpv6
    else .error .invalidIpv6)
  | _ => none

/-- The text of a host of a well-known scheme. -/
def parseSpecial (s : List Char) : Except UrlFault String :=
  match bracketed? s with
  | some result => result
  | none =>
    match (Utf8.decode? (Percent.decode s)).bind domainToAscii? with
    | none => .error .invalidDomain
    | some [] => .error .emptyHost
    | some domain =>
      if Ip.endsInNumber domain then
        match Ip.parseV4? domain with
        | some address => .ok (Ip.renderV4 address)
        | none => .error .invalidIpv4
      else .ok (String.ofList domain)

/-- The characters that no host may hold. -/
def forbidden : List Char :=
  '\x00' :: "\t\n\r #/:<>?@[\\]^|".toList

/-- The text of a host of any other scheme. -/
def parseOpaque (s : List Char) : Except UrlFault String :=
  match bracketed? s with
  | some result => result
  | none =>
    if s.any forbidden.contains then .error .invalidHostCharacter
    else .ok (String.ofList (Percent.encode Percent.inControls s))

end Host
end PageObjects
