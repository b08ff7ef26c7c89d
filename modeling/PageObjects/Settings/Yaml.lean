/-
  PageObjects.Settings.Yaml

  Settings as YAML: mappings with the same fields as in JSON. A scalar where text is
  expected is that text, however it is written; a number, a truth value or "nothing"
  must be plain. A node that is not written stands for a mapping without pairs.
-/

import PageObjects.Json.Record
import PageObjects.Settings.Json
import PageObjects.Yaml.Node

namespace PageObjects
namespace Yaml

/-- The text of a scalar. -/
def text? : Node → Option String
  | .scalar _ _ text => some text
  | _ => none

/-- Whether a text stands for "nothing". -/
def isNull (text : String) : Bool :=
  text == "null" || text == "Null" || text == "NULL" || text == "~"

/-- Whether a scalar of this style and tag may be a number or a truth value. -/
def isTyped (expected : String) (style : ScalarStyle) (tag : Option String) : Bool :=
  style == .plain || ((style == .literal || style == .folded) && tag == some expected)

/-- A truth value. -/
def bool? : Node → Option Bool
  | .scalar style tag text =>
    if !isTyped "tag:yaml.org,2002:bool" style tag then none
    else if text = "true" ∨ text = "True" ∨ text = "TRUE" then some true
    else if text = "false" ∨ text = "False" ∨ text = "FALSE" then some false
    else none
  | _ => none

/-- A natural number: with a mark of its base, or decimal without leading zeros; a plus sign may
    stand before it. -/
def natural? (s : List Char) : Option Nat :=
  match s with
  | '+' :: s => unsigned? s
  | s => unsigned? s
where
  /-- A natural number without sign. -/
  unsigned? : List Char → Option Nat
    | '0' :: rest =>
      match rest with
      | [] => some 0
      | mark :: digits =>
        if mark = 'x' then Text.digitsNat? 16 digits
        else if mark = 'o' then Text.digitsNat? 8 digits
        else if mark = 'b' then Text.digitsNat? 2 digits
        else none
    | s => Text.digitsNat? 10 s

/-- An unsigned number of 64 bits. -/
def word? : Node → Option Nat
  | .scalar style tag text =>
    if isTyped "tag:yaml.org,2002:int" style tag then
      (natural? text.toList).filter (· < Text.wordSize 64)
    else none
  | _ => none

/-- A text or "nothing". -/
def optionalText? : Node → Option (Option String)
  | .scalar style tag text =>
    if style ≠ .plain then some (some text)
    else
      match tag with
      | some tag =>
        if tag = "tag:yaml.org,2002:null" then if isNull text then some none else none
        else some (some text)
      | none => some (if text.isEmpty || isNull text then none else some text)
  | _ => none

/-- The pairs of a mapping, with the texts of the keys. -/
def pairs? (d : Document) (node : Node) : Option (List (String × Node)) :=
  match d.follow node with
  | .mapping pairs => pairs.mapM fun (key, value) =>
    (text? (d.follow key)).map fun key => (key, d.follow value)
  | .scalar .plain _ "" => some []
  | _ => none

/-- A field with a default. -/
def field? {α : Type} (read : Node → Option α) (fields : Fields Node) (name : String)
    (default : α) : Option α :=
  match fields.lookup name with
  | none => some default
  | some node => read node

end Yaml

namespace AppConfig

/-- The settings of an application as written by a node. -/
def ofYaml? (d : Yaml.Document) (node : Yaml.Node) : Option AppConfig := do
  let fields ← Fields.ofMembers? fieldNames (← Yaml.pairs? d node)
  let baseUrl ← Yaml.field? Yaml.optionalText? fields "base_url" none
  let pageLoaderClass ← Yaml.field? Yaml.optionalText? fields "page_loader_css_class" none
  let tableLoaderClass ← Yaml.field? Yaml.optionalText? fields "table_loader_css_class" none
  let modalVisibleClass ← Yaml.field? Yaml.optionalText? fields "modal_visible_css_class" none
  let hasPageReadyScript ← Yaml.field? Yaml.bool? fields "has_page_ready_script" false
  some { baseUrl, pageLoaderClass, tableLoaderClass, modalVisibleClass, hasPageReadyScript }

end AppConfig

namespace Settings

/-- The applications as written by a node. -/
def appsOfYaml? (d : Yaml.Document) (node : Yaml.Node) : Option (List (String × AppConfig)) := do
  let pairs ← Yaml.pairs? d node
  let apps ← pairs.mapM fun (name, node) => (AppConfig.ofYaml? d node).map fun app => (name, app)
  some (apps.foldl (fun apps (name, app) => insertApp name app apps) [])

/-- The settings as written by a document. -/
def ofYaml? (d : Yaml.Document) : Option Settings := do
  let fields ← Fields.ofMembers? fieldNames (← Yaml.pairs? d d.root)
  let default : Settings := {}
  let apps ← Yaml.field? (appsOfYaml? d) fields "apps" []
  let waitTimeoutMs ← Yaml.field? Yaml.word? fields "wait_timeout_ms" default.waitTimeoutMs
  let pollIntervalMs ← Yaml.field? Yaml.word? fields "poll_interval_ms" default.pollIntervalMs
  let driverLogLevel ← Yaml.field? Yaml.text? fields "driver_log_level" default.driverLogLevel
  let dataAttribute ← Yaml.field? Yaml.text? fields "data_e2e_attribute" default.dataAttribute
  let tableAttribute ← Yaml.field? Yaml.text? fields "table_e2e_attribute" default.tableAttribute
  let defaultTableTag ← Yaml.field? Yaml.text? fields "default_table_tag" default.defaultTableTag
  let nestedTableTag ← Yaml.field? Yaml.text? fields "nested_table_tag" default.nestedTableTag
  some { apps, waitTimeoutMs, pollIntervalMs, driverLogLevel, dataAttribute, tableAttribute,
         defaultTableTag, nestedTableTag }

/-- Reads settings from YAML text, which has at most one document. -/
def parseYaml (text : String) : Except PageError Settings :=
  match Yaml.Document.ofText? text with
  | some [] => .ok {}
  | some [document] =>
    match ofYaml? document with
    | some settings => .ok settings
    | none => .error .yaml
  | _ => .error .yaml

end Settings
end PageObjects
