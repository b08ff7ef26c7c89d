/-
  PageObjects.Settings.Check

  What settings must satisfy: every application has an address that can be read,
  and the log level is known.
-/

import PageObjects.Settings.Basic
import PageObjects.Text.Quoted
import PageObjects.Url.Parser

namespace PageObjects
namespace Settings

/-- The complaint about an application without an address. -/
def missingBaseUrl (name : String) : PageError :=
  .config ("Base url not found in config for project " ++ name)

/-- The address of an application, which must be there. -/
def requireBaseUrl (name : String) (app : AppConfig) : Except PageError String :=
  match app.baseUrl with
  | some base => .ok base
  | none => .error (missingBaseUrl name)

/-- Checks the address of an application. -/
def checkApp (name : String) (app : AppConfig) : Except PageError Unit := do
  let base ← requireBaseUrl name app
  match Url.parse base with
  | .ok _ => .ok ()
  | .error fault => .error (.config
      ("Invalid base url " ++ Text.quoted base ++ " for project " ++ name ++ ": " ++ fault.text))

/-- The level with the given name, in any case; some levels have two names. -/
def LogLevel.ofName? (name : String) : Option LogLevel :=
  if name = "trace" then some .trace
  else if name = "debug" then some .debug
  else if name = "info" then some .info
  else if name = "warn" ∨ name = "warning" then some .warn
  else if name = "error" ∨ name = "critical" then some .error
  else none

/-- The log level of the browser driver. -/
def logLevel (settings : Settings) : Except PageError LogLevel :=
  let name := String.ofList (settings.driverLogLevel.toList.map Char.toLower)
  match LogLevel.ofName? name with
  | some level => .ok level
  | none => .error (.config ("Unknown log level " ++ Text.quoted name))

/-- Checks all applications in turn, then the log level. -/
def validate (settings : Settings) : Except PageError Unit := do
  settings.apps.forM fun (name, app) => checkApp name app
  let _ ← settings.logLevel
  .ok ()

/-- The name of the log level, as a log filter takes it. -/
def logDirective (settings : Settings) : Except PageError String :=
  settings.logLevel.map LogLevel.name

end Settings
end PageObjects
