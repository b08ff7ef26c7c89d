/-
  PageObjects.Url.Query

  What pages ask of the text of an address: its base and its query, the server, the
  values of a parameter, and the number that names an object. Texts that are no
  address are taken as they are or, for parameters, as relative ones.
-/

import PageObjects.Text.Blank
import PageObjects.Url.Form
import PageObjects.Url.Parser

namespace PageObjects
namespace Url

/-- Splits a text that is no address: at the first question mark before any fragment. -/
def splitText (s : List Char) : List Char × List Char :=
  let (base, query) := Text.cut '?' (Text.cut '#' s).1
  (base, query.getD [])

/-- The text of an address up to its query, and the query. -/
def splitQuery (text : String) : String × String :=
  match parse text with
  | .ok u => (u.base, u.query.getD "")
  | .error _ =>
    let (base, query) := splitText text.toList
    (String.ofList base, String.ofList query)

/-- The text of an address up to its query. -/
def baseOf (text : String) : String :=
  (splitQuery text).1

/-- The server of an address, empty for a text that is no address. -/
def domainOf (text : String) : String :=
  match parse text with
  | .ok u => u.domain
  | .error _ => ""

/-- The text with pairs added to the query. -/
def addParams (text : String) (params : List (String × String)) : String :=
  if params.isEmpty then text
  else text ++ (if text.toList.contains '?' then "&" else "?") ++ Form.render params

/-- The server that relative addresses are read against. -/
def placeholder : Url :=
  { scheme := "http"
    authority := some { userinfo := "", host := "localhost", port := none }
    path := "/"
    query := none
    fragment := none }

/-- Reads an address, a relative one against the placeholder. -/
def parseLenient? (text : String) : Option Url :=
  match parse text with
  | .ok u => some u
  | .error .relativeWithoutBase => (join placeholder text).toOption
  | .error _ => none

/-- The values of a parameter that are not empty; `none` if there are none. -/
def paramValues? (text name : String) : Option (List String) := do
  let u ← parseLenient? text
  let values := ((Form.parse (u.query.getD "")).filter fun (key, value) =>
    key == name && !value.isEmpty).map (·.2)
  if values.isEmpty then none else some values

/-- A number between blanks. -/
def number? (s : List Char) : Option Int :=
  Text.int64? (Text.trimBlanks s)

/-- The number that names an object: the first parameter `id`, else the last part of the path. -/
def objectId? (text : String) : Option Int :=
  match paramValues? text "id" with
  | some (id :: _) => number? id.toList
  | some [] => none
  | none => do
    let u ← parseLenient? text
    number? (u.path.toList.reverse.takeWhile (· != '/')).reverse

end Url
end PageObjects
