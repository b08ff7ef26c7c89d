/-
  PageObjects.Page.Storage

  What a page leaves in the browser, and where it is scrolled to. Cookies are chosen
  by a pattern that some field of theirs matches, without regard to case; a cookie
  without that field ends the deletion.
-/

import PageObjects.Page.Recovery
import PageObjects.Pattern.Reader

namespace PageObjects

variable {W : Type}

/-- The text of a field of a cookie that patterns look at: the field itself if it is a text, else
    its JSON form. -/
def Cookie.fieldText? (cookie : Cookie) (key : String) : Option String :=
  (cookie.field? key).map fun value => value.text?.getD value.sorted.render

/-- Where an element comes to lie when it is scrolled to. -/
inductive ScrollPosition where
  | start
  | center
  | finish
  | nearest
deriving DecidableEq, Repr

/-- The name of a position in scripts. -/
def ScrollPosition.name : ScrollPosition → String
  | .start => "start"
  | .center => "center"
  | .finish => "end"
  | .nearest => "nearest"

namespace Page

/-! ## Cookies -/

/-- Deletes the cookies of a list whose field under a key is wanted. A cookie that has no text for
    a name stays. -/
def deleteMatching (isWanted : String → Bool) (missing : PageError) (key : String) :
    List Cookie → Action W Unit
  | [] => return
  | cookie :: rest => do
    match cookie.fieldText? key with
    | none => throw missing
    | some text =>
      if isWanted text then
        if let some name := cookie.name? then
          Action.pageCall (.deleteCookie name) "delete_cookie"
      deleteMatching isWanted missing key rest

/-- Deletes the cookies whose field under a key matches a pattern. -/
def deleteCookies (filter key : String) : Action W Unit := do
  match Pattern.parse? filter { ignoreCase := true } with
  | none => throw (.config ("Invalid cookie filter " ++ Text.quoted filter
      ++ ": regex parse error:"))
  | some pattern =>
    let cookies ← Action.pageCall .cookies "cookies"
    let missing := "Not found cookie by (value, key) = (" ++ filter ++ ", " ++ key ++ ")"
    deleteMatching pattern.occursIn (.page missing) key cookies

/-- Deletes all cookies. -/
def deleteAllCookies : Action W Unit :=
  Action.pageCall .deleteAllCookies "delete_all_cookies"

/-! ## Local storage -/

/-- Runs a script on the local storage. -/
def runStorageScript (script : String) (arguments : List ScriptArgument) : Action W Unit := do
  let _ ← Action.pageCall (.executeScript script arguments) "delete_local_storage"

/-- Removes a key from the local storage, or everything. -/
def deleteLocalStorage (key : Option String) : Action W Unit :=
  match key.filter fun text => !text.isEmpty with
  | some key => runStorageScript "window.localStorage.removeItem(arguments[0]);"
      [.value (.ofString key)]
  | none => runStorageScript "window.localStorage.clear();" []

/-! ## Scrolling -/

/-- The script that scrolls to its argument. -/
def scrollScript (vertical horizontal : ScrollPosition) : String :=
  "\narguments[0].scrollIntoView(\x7bblock: \"" ++ vertical.name ++ "\", inline: \""
    ++ horizontal.name ++ "\"\x7d)\n"

/-- Scrolls to an element. -/
def scrollTo (handle : Handle) (vertical horizontal : ScrollPosition) : Action W Unit := do
  let reference ← handle.own.reference
  let _ ← Action.pageCall (.executeScript (scrollScript vertical horizontal) [.element reference])
    "scroll_to_element"

end Page
end PageObjects
