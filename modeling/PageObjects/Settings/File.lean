/-
  PageObjects.Settings.File

  Settings from a file. The bytes must be text; the name of the file tells whether
  they are JSON or YAML, and what is read is checked.
-/

import PageObjects.Settings.Check
import PageObjects.Settings.Json
import PageObjects.Settings.Yaml
import PageObjects.Text.Utf8

namespace PageObjects
namespace Settings

/-- The extension of a file name: what stands behind its last dot, unless the dot comes first. -/
def extension? (name : String) : Option String :=
  let s := name.toList.reverse
  match s.dropWhile (· != '.') with
  | _ :: _ :: _ => some (String.ofList (s.takeWhile (· != '.')).reverse)
  | _ => none

/-- The settings in a file with the given name and bytes; a file that is missing has none. -/
def ofFile (name : String) (bytes : Option (List Nat)) : Except PageError Settings := do
  let text ← match bytes.bind Utf8.decode? with
    | some text => .ok (String.ofList text)
    | none => .error .file
  let settings ← if extension? name = some "json" then parseJson text else parseYaml text
  settings.validate
  .ok settings

end Settings
end PageObjects
