/-
  PageObjects.Url.Form

  Names and values in the query of an address. A pair is a name and a value with an
  equals sign between them, pairs stand between ampersands, and every character
  outside a small set is encoded, the space as a plus sign.
-/

import PageObjects.Text.Split
import PageObjects.Url.Percent

namespace PageObjects
namespace Form

/-- Whether `c` stands for itself. -/
def isPlain (c : Char) : Bool :=
  c.isAlphanum || c == '*' || c == '-' || c == '.' || c == '_'

/-- A name or a value in its encoded form. -/
def encode (s : List Char) : List Char :=
  s.flatMap fun c =>
    if isPlain c then [c]
    else if c = ' ' then ['+']
    else (Utf8.encodeChar c).flatMap Percent.encodeByte

/-- The name or value with the given encoded form. -/
def decode (s : List Char) : List Char :=
  Utf8.decodeLossy (Percent.decode (s.map fun c => if c = '+' then ' ' else c))

/-- A pair in its encoded form. -/
def renderPair (pair : String × String) : List Char :=
  encode pair.1.toList ++ '=' :: encode pair.2.toList

/-- The pairs in their encoded form. -/
def render (pairs : List (String × String)) : String :=
  String.ofList (['&'].intercalate (pairs.map renderPair))

/-- The pair with the given encoded form; without an equals sign the value is empty. -/
def parsePair (s : List Char) : String × String :=
  let (name, value) := Text.cut '=' s
  (String.ofList (decode name), String.ofList (decode (value.getD [])))

/-- The pairs of a query. -/
def parse (query : String) : List (String × String) :=
  ((Text.parts '&' query.toList).filter fun part => !part.isEmpty).map parsePair

end Form
end PageObjects
