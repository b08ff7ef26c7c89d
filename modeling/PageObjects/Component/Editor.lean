/-
  PageObjects.Component.Editor

  A rich-text editor: the buttons of its toolbar and the area for the text. Each of
  them is looked up once.
-/

import PageObjects.Component.Container

namespace PageObjects

variable {W : Type}

/-- The parts of an editor. -/
inductive EditorPart where
  | cut
  | copy
  | bold
  | centerText
  | textArea
deriving DecidableEq, Repr

/-- The class of a part. -/
def EditorPart.cssClass : EditorPart → String
  | .cut => "cke_button__cut"
  | .copy => "cke_button__copy"
  | .bold => "cke_button__bold"
  | .centerText => "cke_button__justifycenter_icon"
  | .textArea => "cke_contents_ltr"

/-- An editor, with the parts that were looked up. -/
structure Editor where
  element : Handle
  found : Keyed EditorPart Handle := []

namespace Editor

/-- The editor of an element. -/
def ofElement (element : Handle) : Action W Editor := do
  Component.requireTag element "ckeditor" .editor
  return { element }

/-- A part of the editor, and the editor with that part looked up. -/
def part (editor : Editor) (wanted : EditorPart) : Action W (Handle × Editor) := do
  editor.element.own.requirePage
  Page.checkOpened
  match editor.found.find? wanted with
  | some handle => return (handle, editor)
  | none =>
    let handle ← Action.orMiss
      (.editor ("Cannot find ." ++ wanted.cssClass ++ " in the editor"))
      (editor.element.find (.className wanted.cssClass))
    return (handle, { editor with found := editor.found.put wanted handle })

end Editor
end PageObjects
