/-
  PageObjects.Proofs.Page.Launching

  What the launch of a page does when its declaration is not sound. The session is asked
  for before the declaration is checked, so the complaint comes behind one call to the
  provider; a fresh session has no cookies, and those that were there are gone.

    * `Page.launch_of_error`: the result and the run, for any browser.
    * `Page.launch_unsound`: the one call, and when it changes nothing in the browser in
      memory.
-/

import PageObjects.Browser.InMemory
import PageObjects.Page.Launch
import PageObjects.Proofs.Page.Soundness

namespace PageObjects

variable {W : Type} {spec : PageSpec} {settings : Settings} {e : PageError}

namespace Page

/-- A declaration that is no page is not opened. -/
theorem opened_of_error (h : ofSpec spec settings = .error e) (driver : Driver W)
    (params : List (String × String)) (run : Run W) :
    opened driver spec settings params run = (.error e, run) := by
  rw [opened, h]

/-- The complaint about the declaration stands behind that of the provider, and the run is the one
    behind the call to it. -/
theorem launch_of_error (h : ofSpec spec settings = .error e) (driver : Driver W) (fresh : Bool)
    (params : List (String × String)) (run : Run W) :
    launch driver spec settings fresh params run
      = (match (run.exchange driver (.provider (.session fresh))).1 with
          | .ok _ => .error e
          | .error fault => .error (.ofFault fault "provider" "session"),
        (run.exchange driver (.provider (.session fresh))).2) := by
  rw [launch, Run.session, Run.providerCall]
  rcases run.exchange driver (.provider (.session fresh)) with ⟨fault | answer, after⟩
  · rfl
  · exact opened_of_error h driver params after

end Page

theorem Browser.afterSession_eq_self_iff (browser : Browser) (fresh : Bool) :
    browser.afterProviderCall (.session fresh) = browser
      ↔ fresh = false ∨ browser.cookies = [] := by
  cases fresh with
  | false => exact iff_of_true rfl (.inl rfl)
  | true =>
    simp only [Bool.true_eq_false, false_or]
    constructor
    · intro h_same
      exact (congrArg Browser.cookies h_same).symm
    · intro h_none
      show { browser with cookies := [] } = browser
      rw [← h_none]

/-- A launch with a declaration that is no page makes one call, to the provider, and ends in the
    error of that call, or else in that of the declaration. The browser in memory meets no
    fault, so the launch ends in the error of the declaration there; but a fresh session was
    begun by then, and the browser is as it was only if it had no cookies. -/
theorem Page.launch_unsound (h : ofSpec spec settings = .error e) (fresh : Bool)
    (params : List (String × String)) :
    (∀ (W : Type) (driver : Driver W) (run : Run W),
        let launched := launch driver spec settings fresh params run
        let answered := run.exchange driver (.provider (.session fresh))
        launched.2 = answered.2
          ∧ launched.1 = match answered.1 with
            | .ok _ => .error e
            | .error fault => .error (.ofFault fault "provider" "session"))
      ∧ ∀ run : Run Browser,
        let launched := launch Browser.driver spec settings fresh params run
        launched.1 = .error e
          ∧ launched.2.transcript = ⟨.provider (.session fresh), .ok (), run.memory⟩ :: run.transcript
          ∧ (launched.2.world = run.world ↔ fresh = false ∨ run.world.cookies = []) := by
  constructor
  · intro W driver run
    dsimp only
    rw [launch_of_error h]
    exact ⟨rfl, rfl⟩
  · intro run
    dsimp only
    rw [launch_of_error h]
    exact ⟨rfl, rfl, run.world.afterSession_eq_self_iff fresh⟩

/-- The declaration of a page without a route. -/
def PageSpec.routeless : PageSpec where
  name := "Orders"
  config := { app := "shop" }

/-- A browser with a cookie. -/
def Browser.signedIn : Browser where
  cookies := [[(some "name", .ofString "sid"), (some "value", .ofString "1")]]

/-- The launch of a page without a route, in a fresh session, is refused when the cookie is gone. -/
theorem Page.launch_unsound_routeless :
    ofSpec .routeless .shop = .error (.config "Page object must have a page url")
      ∧ (launch Browser.driver .routeless .shop true [] { world := .signedIn }).1
        = .error (.config "Page object must have a page url")
      ∧ (launch Browser.driver .routeless .shop true [] { world := .signedIn }).2.world
        ≠ .signedIn := by
  have h_error : ofSpec .routeless .shop = .error (.config "Page object must have a page url") := by
    have h_config : PageSpec.routeless.config.resolve .shop
        = .error (.config "Page object must have a page url") := by
      decide +kernel
    show (PageSpec.routeless.config.resolve .shop >>= fun config => _) = _
    rw [h_config]
    rfl
  obtain ⟨h_result, -, h_same⟩ :=
    (launch_unsound h_error true []).2 { world := .signedIn }
  refine ⟨h_error, h_result, fun h_world => ?_⟩
  rcases h_same.mp h_world with h_fresh | h_none
  · cases h_fresh
  · cases h_none

end PageObjects
