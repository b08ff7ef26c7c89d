/-
  PageObjects.Settings.PageConfig

  The configuration that a page declares, and its completion by the settings of
  its application. A page has one route and may have further addresses; all are
  joined onto the address of the application. A class that the page does not give
  is taken from the application, and one of the two must give it.
-/

import PageObjects.Settings.Check

namespace PageObjects

/-- The configuration that a page declares. -/
structure PageConfig where
  app : String
  /-- The route of the page. -/
  url : Option String := none
  /-- Further routes that show the page. -/
  validUrls : List String := []
  pageLoaderClass : Option String := none
  tableLoaderClass : Option String := none
  modalVisibleClass : Option String := none
deriving DecidableEq, Repr

/-- The configuration of a page with nothing left open. -/
structure ResolvedConfig where
  app : String
  baseUrl : String
  /-- The address of the page. -/
  pageUrl : String
  /-- The addresses that show the page: the further ones in order, then that of the page. -/
  validUrls : List String
  hasPageReadyScript : Bool
  pageLoaderClass : String
  tableLoaderClass : String
  modalVisibleClass : String
deriving DecidableEq, Repr

namespace PageConfig

/-- A class that the page or its application must give. -/
def requireClass (app key : String) (own shared : Option String) : Except PageError String :=
  match own.or shared with
  | some value => .ok value
  | none => .error (.config (key ++ " must be set in config for current app " ++ app))

/-- Turns an address fault into an error. -/
def addressed {α : Type} (result : Except UrlFault α) : Except PageError α :=
  result.mapError .url

/-- The text of a route joined onto an address. -/
def joined (base : Url) (route : String) : Except PageError String :=
  (addressed (base.join route)).map Url.render

/-- The configuration completed by the settings. -/
def resolve (page : PageConfig) (settings : Settings) : Except PageError ResolvedConfig := do
  let app ← settings.app page.app
  let baseUrl ← Settings.requireBaseUrl page.app app
  let base ← addressed (Url.parse baseUrl)
  let route ← match page.url with
    | some route => .ok route
    | none => .error (.config "Page object must have a page url")
  let pageUrl ← joined base route
  let validUrls ← (page.validUrls ++ [route]).mapM (joined base)
  let pageLoaderClass ←
    requireClass page.app "page_loader_css_class" page.pageLoaderClass app.pageLoaderClass
  let tableLoaderClass ←
    requireClass page.app "table_loader_css_class" page.tableLoaderClass app.tableLoaderClass
  let modalVisibleClass ←
    requireClass page.app "modal_visible_css_class" page.modalVisibleClass app.modalVisibleClass
  .ok { app := page.app, baseUrl, pageUrl, validUrls
        hasPageReadyScript := app.hasPageReadyScript
        pageLoaderClass, tableLoaderClass, modalVisibleClass }

end PageConfig

end PageObjects
