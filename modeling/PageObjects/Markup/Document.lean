/-
  PageObjects.Markup.Document

  The element of a text that must contain one.
-/

import PageObjects.Error
import PageObjects.Markup.Forest

namespace PageObjects
namespace Markup

/-- The first element of a text; a text without elements is an error. -/
def requireElement (markup : String) : Except PageError Element :=
  match parseElement? markup with
  | some element => .ok element
  | none => .error (.markup "Document is empty")

end Markup
end PageObjects
