/-
  PageObjects.Page.Launch

  How a page comes to be: its session is asked for, its declaration is checked, and
  it is opened. Only the first and the last of these touch the browser.
-/

import PageObjects.Page.Navigation

namespace PageObjects

variable {W : Type}

/-- Makes a call to the provider of sessions. -/
def Run.providerCall (driver : Driver W) (call : ProviderCall) (operation : String) (run : Run W) :
    Except PageError Unit × Run W :=
  let (answer, run) := run.exchange driver (.provider call)
  (answer.mapError fun fault => .ofFault fault "provider" operation, run)

/-- Asks for the session. -/
def Run.session (driver : Driver W) (fresh : Bool) (run : Run W) : Except PageError Unit × Run W :=
  run.providerCall driver (.session fresh) "session"

/-- Quits the browser. -/
def Run.quit (driver : Driver W) (run : Run W) : Except PageError Unit × Run W :=
  run.providerCall driver .quit "quit"

namespace Page

/-- The page of a declaration, opened. -/
def opened (driver : Driver W) (spec : PageSpec) (settings : Settings)
    (params : List (String × String)) (run : Run W) : Except PageError Page × Run W :=
  match ofSpec spec settings with
  | .error e => (.error e, run)
  | .ok page =>
    let (result, run) := visit none params { driver, page } run
    (result.map fun _ => page, run)

/-- The page of a declaration, opened in a session that is asked for. -/
def launch (driver : Driver W) (spec : PageSpec) (settings : Settings) (fresh : Bool)
    (params : List (String × String)) (run : Run W) : Except PageError Page × Run W :=
  match run.session driver fresh with
  | (.error e, run) => (.error e, run)
  | (.ok _, run) => opened driver spec settings params run

end Page
end PageObjects
