/-
  PageObjects.Settings.Basic

  The settings of a test run: the applications under test and the defaults that
  all pages share. A value of `Settings` with no field given is the default.
-/

import PageObjects.Error

namespace PageObjects

/-- The settings of one application under test. -/
structure AppConfig where
  /-- The address that every route of the application is joined onto. -/
  baseUrl : Option String := none
  /-- The class of the full-page loading indicator. -/
  pageLoaderClass : Option String := none
  /-- The class of the loading indicator of tables. -/
  tableLoaderClass : Option String := none
  /-- The class of an open modal. -/
  modalVisibleClass : Option String := none
  /-- Whether the pages of the application report that they are ready. -/
  hasPageReadyScript : Bool := false
deriving DecidableEq, Repr, Inhabited

/-- The settings of a test run. Application names are distinct. -/
structure Settings where
  apps : List (String × AppConfig) := []
  /-- How long a wait goes on, in milliseconds. -/
  waitTimeoutMs : Nat := 60000
  /-- The pause between two polls of a wait, in milliseconds. -/
  pollIntervalMs : Nat := 500
  driverLogLevel : String := "warning"
  /-- The attribute that names elements for tests. -/
  dataAttribute : String := "data-e2e"
  /-- The attribute that names tables for tests. -/
  tableAttribute : String := "data-e2e-table"
  /-- The tag of a table at the top level. -/
  defaultTableTag : String := "p-table"
  /-- The tag of a table inside a table. -/
  nestedTableTag : String := "table"
deriving DecidableEq, Repr, Inhabited

/-- How much a log tells. -/
inductive LogLevel where
  | trace
  | debug
  | info
  | warn
  | error
deriving DecidableEq, Repr

/-- The name of a log level. -/
def LogLevel.name : LogLevel → String
  | .trace => "trace"
  | .debug => "debug"
  | .info => "info"
  | .warn => "warn"
  | .error => "error"

namespace Settings

/-- Registers an application, instead of an earlier one of that name. -/
def insertApp (name : String) (app : AppConfig) : List (String × AppConfig) → List (String × AppConfig)
  | [] => [(name, app)]
  | (other, old) :: rest =>
    if other = name then (name, app) :: rest else (other, old) :: insertApp name app rest

/-- The application with the given name. -/
def app (settings : Settings) (name : String) : Except PageError AppConfig :=
  match settings.apps.lookup name with
  | some app => .ok app
  | none => .error (.config ("Application " ++ name ++ " is not configured"))

end Settings

end PageObjects
