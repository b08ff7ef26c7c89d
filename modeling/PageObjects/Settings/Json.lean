/-
  PageObjects.Settings.Json

  Settings as JSON: records whose missing fields have their defaults, and an object
  from application names to the settings of the applications. Where a name of an
  application is repeated, the last one counts. `toJson` writes every field.
-/

import PageObjects.Json.Reader
import PageObjects.Json.Record
import PageObjects.Settings.Basic

namespace PageObjects

namespace AppConfig

/-- The field names of the settings of an application, in their order. -/
def fieldNames : List String :=
  ["base_url", "page_loader_css_class", "table_loader_css_class", "modal_visible_css_class",
   "has_page_ready_script"]

/-- The settings of an application as written by a JSON value. -/
def ofJson? (json : Json) : Option AppConfig := do
  let fields ← json.fields? fieldNames
  let baseUrl ← Json.optionalTextField? fields "base_url"
  let pageLoaderClass ← Json.optionalTextField? fields "page_loader_css_class"
  let tableLoaderClass ← Json.optionalTextField? fields "table_loader_css_class"
  let modalVisibleClass ← Json.optionalTextField? fields "modal_visible_css_class"
  let hasPageReadyScript ← Json.boolField? fields "has_page_ready_script" false
  some { baseUrl, pageLoaderClass, tableLoaderClass, modalVisibleClass, hasPageReadyScript }

/-- The settings of an application as an object with all fields. -/
def toJson (app : AppConfig) : Json :=
  .ofMembers [
    ("base_url", .ofOption .ofString app.baseUrl),
    ("page_loader_css_class", .ofOption .ofString app.pageLoaderClass),
    ("table_loader_css_class", .ofOption .ofString app.tableLoaderClass),
    ("modal_visible_css_class", .ofOption .ofString app.modalVisibleClass),
    ("has_page_ready_script", .bool app.hasPageReadyScript)]

end AppConfig

namespace Settings

/-- The field names of settings, in their order. -/
def fieldNames : List String :=
  ["apps", "wait_timeout_ms", "poll_interval_ms", "driver_log_level", "data_e2e_attribute",
   "table_e2e_attribute", "default_table_tag", "nested_table_tag"]

/-- The applications as written by the members of a JSON object, added to those before. -/
def appsOfMembers? (before : List (String × AppConfig)) :
    List (Option String × Json) → Option (List (String × AppConfig))
  | [] => some before
  | (name, value) :: rest => do
    let name ← name
    let app ← AppConfig.ofJson? value
    appsOfMembers? (insertApp name app before) rest

/-- The applications as written by a JSON value. -/
def appsOfJson? : Json → Option (List (String × AppConfig))
  | .object members => appsOfMembers? [] members
  | _ => none

/-- The field of the applications, of which there are none if it is missing. -/
def appsField? (fields : Fields Json) : Option (List (String × AppConfig)) :=
  match fields.lookup "apps" with
  | none => some []
  | some value => appsOfJson? value

/-- The settings as written by a JSON value. -/
def ofJson? (json : Json) : Option Settings := do
  let fields ← json.fields? fieldNames
  let apps ← appsField? fields
  let default : Settings := {}
  let waitTimeoutMs ← Json.wordField? fields "wait_timeout_ms" default.waitTimeoutMs
  let pollIntervalMs ← Json.wordField? fields "poll_interval_ms" default.pollIntervalMs
  let driverLogLevel ← Json.textField? fields "driver_log_level" default.driverLogLevel
  let dataAttribute ← Json.textField? fields "data_e2e_attribute" default.dataAttribute
  let tableAttribute ← Json.textField? fields "table_e2e_attribute" default.tableAttribute
  let defaultTableTag ← Json.textField? fields "default_table_tag" default.defaultTableTag
  let nestedTableTag ← Json.textField? fields "nested_table_tag" default.nestedTableTag
  some { apps, waitTimeoutMs, pollIntervalMs, driverLogLevel, dataAttribute, tableAttribute,
         defaultTableTag, nestedTableTag }

/-- Reads settings from JSON text. -/
def parseJson (text : String) : Except PageError Settings :=
  match (Json.parse? text).bind ofJson? with
  | some settings => .ok settings
  | none => .error .json

/-- Settings as an object with all fields. -/
def toJson (settings : Settings) : Json :=
  .ofMembers [
    ("apps", .ofMembers (settings.apps.map fun (name, app) => (name, app.toJson))),
    ("wait_timeout_ms", .ofNat settings.waitTimeoutMs),
    ("poll_interval_ms", .ofNat settings.pollIntervalMs),
    ("driver_log_level", .ofString settings.driverLogLevel),
    ("data_e2e_attribute", .ofString settings.dataAttribute),
    ("table_e2e_attribute", .ofString settings.tableAttribute),
    ("default_table_tag", .ofString settings.defaultTableTag),
    ("nested_table_tag", .ofString settings.nestedTableTag)]

end Settings

end PageObjects
