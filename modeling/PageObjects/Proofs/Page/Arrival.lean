/-
  PageObjects.Proofs.Page.Arrival

  Opening a page, and asking right after whether it is open. In a browser that shows
  the address it was sent to last, a page that was opened at its own address is open
  exactly if a valid address occurs in the base of the own one. The pairs that the page
  was opened with do not matter, but a query or a fragment in a route does: the valid
  addresses keep theirs, and the base has none.

    * `visit_shows`: what the browser shows behind the opening of a page.
    * `checkOpened_visit_iff`: when the page is open then.
    * `checkOpened_visit_plain`: a route without a query and a fragment is always open.
-/

import PageObjects.Browser.InMemory
import PageObjects.Proofs.Action.Opening
import PageObjects.Proofs.Page.Addresses
import PageObjects.Proofs.Recovery.Placement
import PageObjects.Proofs.Url.Splitting

namespace PageObjects

open PageObjects.Action

variable {W : Type} {driver : Driver W} {shown : W → String}

/-- A browser that shows the address it was sent to last: it always tells the address, and no call
    of the waits behind a navigation changes it. -/
structure Driver.ShowsLast (driver : Driver W) (shown : W → String) : Prop where
  currentUrl : ∀ w, (driver.answer (.session .currentUrl) w).1 = .ok (shown w)
  navigate : ∀ url w, (driver.answer (.session (.navigate url)) w).1 = .ok () →
    shown (driver.answer (.session (.navigate url)) w).2 = url
  script : ∀ w, shown (driver.answer (.session (.executeScript Page.readyScript [])) w).2 = shown w
  find : ∀ locator w, shown (driver.answer (.session (.find locator)) w).2 = shown w
  isDisplayed : ∀ reference w,
    shown (driver.answer (.element reference .isDisplayed) w).2 = shown w
  pause : ∀ ms w, shown (driver.clock.pause ms w) = shown w

namespace Page

variable {page : Page} {params : List (String × String)} {run after : Run W}

-- ============================================================================
-- What is shown
-- ============================================================================

/-- The waits do not change what is shown. -/
theorem undisturbed_shown (h : driver.ShowsLast shown) (page : Page) (url : String) :
    Undisturbed ⟨driver, page⟩ fun run : Run W => shown run.world = url where
  script run h_run := (h.script run.world).trans h_run
  find locator run h_run := (h.find locator run.world).trans h_run
  isDisplayed reference run h_run := (h.isDisplayed reference run.world).trans h_run
  pause ms run h_run := (h.pause ms run.world).trans h_run

/-- Behind a navigation that succeeds its address is shown. -/
theorem redirect_shows (h : driver.ShowsLast shown) (page : Page) (url : String) :
    Triple ⟨driver, page⟩ (fun _ : Run W => True) (redirect url)
      (fun _ run => shown run.world = url) fun _ _ => True := by
  intro run _
  have h_forget : (forgetAll : Action W Unit) ⟨driver, page⟩ run
      = (.ok (), { run with memory := {} }) := rfl
  have h_navigate := h.navigate url run.world
  rw [redirect, run_bind_ok h_forget, run_pageCall]
  cases h_answer : (Run.exchange driver (.session (.navigate url)) { run with memory := {} }).1 with
  | error fault => trivial
  | ok answer => exact h_navigate h_answer

/-- The browser shows the own address of a page that was opened, with the pairs. -/
theorem visit_shows (h : driver.ShowsLast shown)
    (h_visit : visit none params ⟨driver, page⟩ run = (.ok (), after)) :
    shown after.world = Url.addParams page.config.pageUrl params := by
  generalize h_url : Url.addParams page.config.pageUrl params = url
  have h_address : page.address none params = .ok url := by
    rw [← h_url]
    rfl
  have h_waits := undisturbed_shown h page url
  have h_keep : ∀ {action : Action W Unit},
      Keeps ⟨driver, page⟩ (fun run => shown run.world = url) action →
      Triple ⟨driver, page⟩ (fun run => shown run.world = url) action
        (fun _ run => shown run.world = url) fun _ _ => True := fun h_keeps =>
    h_keeps.weaken (fun _ h_run => h_run) (fun _ _ h_run => h_run) fun _ _ _ => trivial
  have h_end := (Triple.bind (redirect_shows h page url) fun _ =>
    .bind (h_keep (waitReady_keeps h_waits)) fun _ =>
      h_keep (waitLoaders_keeps h_waits)) run trivial
  rw [visit, run_bind_ok (run_read _), h_address, run_bind_ok (run_lift _ _)] at h_visit
  rw [h_visit] at h_end
  exact h_end

theorem run_openedUrl (driver : Driver W) (page : Page) (run : Run W) :
    openedUrl ⟨driver, page⟩ run
      = ((driver.answer (.session .currentUrl) run.world).1.mapError
          fun fault => .ofFault fault page.name "current_url",
        (run.exchange driver (.session .currentUrl)).2) := by
  rw [openedUrl, run_pageCall]
  rfl

/-- Whether the page is open takes one call to tell. -/
theorem run_checkOpened_snd (driver : Driver W) (page : Page) (run : Run W) :
    (checkOpened ⟨driver, page⟩ run).2 = (run.exchange driver (.session .currentUrl)).2 := by
  rw [checkOpened, run_bind, run_openedUrl]
  cases (driver.answer (.session .currentUrl) run.world).1 with
  | error fault => rfl
  | ok opened =>
    rw [Except.mapError]
    dsimp only
    rw [run_bind_ok (run_read _)]
    dsimp only
    cases page.isAt opened with
    | true => rfl
    | false => rfl

theorem run_checkOpened {driver : Driver W} {page : Page} {run : Run W}
    (h_opened : (checkOpened ⟨driver, page⟩ run).1 = .ok ()) :
    checkOpened ⟨driver, page⟩ run = (.ok (), (run.exchange driver (.session .currentUrl)).2) :=
  Prod.ext h_opened (run_checkOpened_snd driver page run)

/-- A page counts as open exactly if the browser tells an address that is one of the page. -/
theorem checkOpened_ok_iff (driver : Driver W) (page : Page) (run : Run W) :
    (checkOpened ⟨driver, page⟩ run).1 = .ok () ↔
      ∃ opened, (driver.answer (.session .currentUrl) run.world).1 = .ok opened
        ∧ page.isAt opened = true := by
  rw [checkOpened, run_bind, run_openedUrl]
  cases h_url : (driver.answer (.session .currentUrl) run.world).1 with
  | error fault => exact ⟨fun h_ok => (nomatch h_ok), fun ⟨_, h_ok, _⟩ => (nomatch h_ok)⟩
  | ok opened =>
    rw [Except.mapError]
    dsimp only
    rw [run_bind_ok (run_read _)]
    dsimp only
    cases h_at : page.isAt opened with
    | true => exact ⟨fun _ => ⟨opened, rfl, h_at⟩, fun _ => rfl⟩
    | false =>
      refine ⟨fun h_ok => (nomatch h_ok), fun ⟨shown, h_shown, h_true⟩ => ?_⟩
      rw [← Except.ok.inj h_shown, h_at] at h_true
      cases h_true

/-- A page counts as open exactly if a valid address occurs in the base of the shown one. -/
theorem checkOpened_eq_ok_iff (h : driver.ShowsLast shown) (page : Page) (run : Run W) :
    (checkOpened ⟨driver, page⟩ run).1 = .ok () ↔ page.isAt (shown run.world) = true := by
  rw [checkOpened_ok_iff, h.currentUrl]
  constructor
  · rintro ⟨opened, h_opened, h_at⟩
    rwa [Except.ok.inj h_opened]
  · exact fun h_at => ⟨_, rfl, h_at⟩

theorem isAt_iff (page : Page) (opened : String) : page.isAt opened = true ↔
    ∃ url ∈ page.config.validUrls, Text.trimEnd '/' url.toList <:+: (Url.baseOf opened).toList := by
  rw [isAt, List.any_eq_true]
  simp only [Text.occursIn_iff]

-- ============================================================================
-- When the page is open
-- ============================================================================

/-- The base of the own address does not depend on the pairs that it was opened with. -/
theorem baseOf_opened {config : ResolvedConfig} (h : config.Sound)
    (params : List (String × String)) :
    Url.baseOf (Url.addParams config.pageUrl params) = Url.baseOf config.pageUrl := by
  obtain ⟨u, h_written, h_text⟩ := h.written config.pageUrl h.own
  rw [h_text, Url.baseOf_addParams h_written]

/-- Of an address that is not that of a file the base is what stands before the first mark of a
    query or a fragment. -/
theorem baseOf_own {config : ResolvedConfig} (h : config.Sound)
    (h_file : ¬"file:".toList <+: config.pageUrl.toList) :
    Url.baseOf config.pageUrl = String.ofList (Url.splitText config.pageUrl.toList).1 := by
  obtain ⟨u, h_written, h_text⟩ := h.written config.pageUrl h.own
  rw [h_text] at h_file ⊢
  cases h_written with
  | server h_canonical => exact Url.baseOf_render h_canonical
  | file h_canonical =>
    obtain ⟨host, path, -, -, -, h_base⟩ := h_canonical.exists_before
    refine absurd ⟨'/' :: '/' :: (host.toList ++ '/' :: path)
      ++ Url.tailText u.query u.fragment, ?_⟩ h_file
    rw [Url.toList_render, h_base, List.append_assoc]
    rfl

/-- A page that was opened at its own address is open right after exactly if a valid address,
    slashes at its end apart, occurs in the base of the own one. Unless the page is a file, that
    base is the own address without its query and its fragment, and the valid addresses keep
    theirs. -/
theorem checkOpened_visit_iff {spec : PageSpec} {settings : Settings}
    (h_page : Page.ofSpec spec settings = .ok page) (h : driver.ShowsLast shown)
    (h_visit : visit none params ⟨driver, page⟩ run = (.ok (), after)) :
    ((checkOpened ⟨driver, page⟩ after).1 = .ok () ↔
        ∃ url ∈ page.config.validUrls,
          Text.trimEnd '/' url.toList <:+: (Url.baseOf page.config.pageUrl).toList)
      ∧ (¬"file:".toList <+: page.config.pageUrl.toList →
        Url.baseOf page.config.pageUrl
          = String.ofList (Url.splitText page.config.pageUrl.toList).1) := by
  have h_sound := ofSpec_addresses h_page
  refine ⟨?_, baseOf_own h_sound⟩
  rw [checkOpened_eq_ok_iff h, visit_shows h h_visit, isAt_iff, baseOf_opened h_sound]

theorem trimEnd_occurs (c : Char) (s : List Char) : Text.trimEnd c s <:+: s := by
  have h_suffix := List.reverse_prefix.mpr (List.dropWhile_suffix (· == c) (l := s.reverse))
  rw [List.reverse_reverse] at h_suffix
  exact h_suffix.isInfix

/-- A page at an address without a query and a fragment is open right after it was opened. -/
theorem checkOpened_visit_plain {spec : PageSpec} {settings : Settings}
    (h_page : Page.ofSpec spec settings = .ok page) (h : driver.ShowsLast shown)
    (h_visit : visit none params ⟨driver, page⟩ run = (.ok (), after))
    (h_file : ¬"file:".toList <+: page.config.pageUrl.toList)
    (h_plain : ∀ c ∈ page.config.pageUrl.toList, c ∉ "?#".toList) :
    (checkOpened ⟨driver, page⟩ after).1 = .ok () := by
  have h_sound := ofSpec_addresses h_page
  have h_split := Url.splitText_append h_plain Url.mark_of_nil
  rw [List.append_nil] at h_split
  have h_base : (Url.splitText page.config.pageUrl.toList).1 = page.config.pageUrl.toList := by
    rw [h_split]
  rw [checkOpened_eq_ok_iff h, visit_shows h h_visit, isAt_iff, baseOf_opened h_sound,
    baseOf_own h_sound h_file, h_base, String.toList_ofList]
  exact ⟨page.config.pageUrl, h_sound.own, trimEnd_occurs '/' _⟩

end Page

-- ============================================================================
-- A route with a query
-- ============================================================================

theorem Browser.url_reach (reference : Reference) (browser : Browser) :
    (browser.reach reference).2.url = browser.url := by
  obtain ⟨nodes, h_reach⟩ := exists_reach_eq reference browser
  rw [h_reach]

/-- The browser in memory shows the address it was sent to last. -/
theorem Browser.showsLast : Browser.driver.ShowsLast Browser.url where
  currentUrl _ := rfl
  navigate _ _ _ := rfl
  script _ := rfl
  find _ _ := rfl
  isDisplayed reference browser := by
    have h_reach := Browser.url_reach reference browser
    show (browser.elementAnswer reference .isDisplayed).2.url = browser.url
    rw [elementAnswer]
    · rcases h_answer : browser.reach reference with ⟨_ | _, after⟩
      · rw [h_answer] at h_reach
        exact h_reach
      · rw [h_answer] at h_reach
        exact h_reach
    · intro h_eq
      cases h_eq
  pause _ _ := rfl

/-- A shop whose pages have their classes from the application. -/
def Settings.shop : Settings where
  apps := [("shop", {
    baseUrl := some "http://shop.local/", pageLoaderClass := some "", tableLoaderClass := some ""
    modalVisibleClass := some "modal-open" })]

/-- A page whose route has a query. -/
def PageSpec.secondTab : PageSpec where
  name := "Orders"
  config := { app := "shop", url := some "orders?tab=2" }

/-- The page in the shop. -/
def Page.secondTab : Page where
  name := "Orders"
  settings := .shop
  config := {
    app := "shop", baseUrl := "http://shop.local/"
    pageUrl := "http://shop.local/orders?tab=2"
    validUrls := ["http://shop.local/orders?tab=2"], hasPageReadyScript := false
    pageLoaderClass := "", tableLoaderClass := "", modalVisibleClass := "modal-open" }
  elements := []
  tables := []
  groups := []
  nested := []

theorem ofSpec_secondTab : Page.ofSpec .secondTab .shop = .ok .secondTab := by
  have h_config : PageSpec.secondTab.config.resolve .shop = .ok Page.secondTab.config := by
    decide +kernel
  show (PageSpec.secondTab.config.resolve .shop >>= fun config => _) = _
  rw [h_config]
  rfl

/-- The page is opened, and it does not count as open. -/
theorem checkOpened_visit_secondTab : ∃ page after,
    Page.ofSpec .secondTab .shop = .ok page
      ∧ Page.visit none [] ⟨Browser.driver, page⟩ { world := {} } = (.ok (), after)
      ∧ (Page.checkOpened ⟨Browser.driver, page⟩ after).1 ≠ .ok () := by
  obtain ⟨h_iff, h_base⟩ := Page.checkOpened_visit_iff ofSpec_secondTab Browser.showsLast
    (show Page.visit none [] ⟨Browser.driver, .secondTab⟩ { world := {} } = (.ok (), _) from rfl)
  refine ⟨.secondTab, _, ofSpec_secondTab, rfl, fun h_ok => ?_⟩
  obtain ⟨url, h_url, h_occurs⟩ := h_iff.mp h_ok
  rw [h_base (by decide)] at h_occurs
  rw [List.mem_singleton.mp h_url, ← Text.occursIn_iff] at h_occurs
  exact absurd h_occurs (by decide +kernel)

end PageObjects
