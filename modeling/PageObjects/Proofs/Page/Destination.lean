/-
  PageObjects.Proofs.Page.Destination

  Where the opening of a page leads. Of the valid addresses the first one that contains
  the base of the pattern is gone to, or the own one if there is no pattern, and never
  anything else. The query of the pattern and the pairs that are given are put behind
  its text, which leaves its base as it is. Whether its query then has the pairs of all
  three depends on what the valid address ends with.

    * `address_cases`: the address that is opened, or none.
    * `visit_navigated`: the one address that the browser is told to go to.
    * `visit_navigates`: its base, and when its query has all the pairs.
-/

import PageObjects.Proofs.Action.Opening
import PageObjects.Proofs.Page.Acceptance
import PageObjects.Proofs.Url.Added

namespace PageObjects

open PageObjects.Action

variable {W : Type} {driver : Driver W} {page : Page} {run : Run W} {inv : Run W → Prop}
  {pattern : Option String} {params : List (String × String)}

-- ============================================================================
-- Addresses that were gone to
-- ============================================================================

/-- The address that the browser was told to go to, whatever it answered. -/
def Exchange.destination? : Exchange → Option String
  | ⟨.session (.navigate url), _, _⟩ => some url
  | _ => none

/-- The addresses that the browser was told to go to in a run, the latest first. -/
def Run.destinations (run : Run W) : List String :=
  run.transcript.filterMap Exchange.destination?

namespace Page

/-- The waits for a page go nowhere. -/
theorem undisturbed_destinations (driver : Driver W) (page : Page) (urls : List String) :
    Undisturbed ⟨driver, page⟩ fun run : Run W => run.destinations = urls where
  script _ h_run := h_run
  find _ _ h_run := h_run
  isDisplayed _ _ h_run := h_run
  pause _ _ h_run := h_run

-- ============================================================================
-- The address of a pattern
-- ============================================================================

/-- The valid addresses contain the base of a pattern nowhere, slashes at its end apart. -/
def Unmatched (page : Page) (pattern : String) : Prop :=
  ∀ url ∈ page.config.validUrls,
    ¬Text.trimEnd '/' (Url.splitQuery pattern).1.toList <:+: url.toList

/-- An address that a pattern allows: a valid one that contains its base, slashes at the end of that
    apart, or the own one if there is no pattern, or an empty one. -/
def Allows (page : Page) (pattern : Option String) (valid : String) : Prop :=
  valid ∈ page.config.validUrls ∧
    match pattern.filter fun text => !text.isEmpty with
    | some text => Text.trimEnd '/' (Url.splitQuery text).1.toList <:+: valid.toList
    | none => valid = page.config.pageUrl

/-- The query of a pattern. -/
def askedQuery (pattern : Option String) : String :=
  match pattern.filter fun text => !text.isEmpty with
  | some text => (Url.splitQuery text).2
  | none => ""

/-- The pairs that an opening asks for: those of the query of the pattern, as far as an address can
    have it, and then the ones that are given. -/
def askedPairs (pattern : Option String) (params : List (String × String)) :
    List (String × String) :=
  Form.parse (String.ofList (Url.keptQuery params (askedQuery pattern).toList)) ++ params

theorem hash_not_mem_askedQuery (pattern : Option String) :
    '#' ∉ (askedQuery pattern).toList := by
  rw [askedQuery]
  split
  · exact Url.hash_not_mem_splitQuery _
  · exact List.not_mem_nil

/-- An allowed address is opened with what is asked for behind it; if none is allowed, the opening
    fails. -/
theorem address_cases (h : page.config.Sound) (pattern : Option String)
    (params : List (String × String)) :
    (∃ valid, page.Allows pattern valid
        ∧ page.address pattern params = .ok (Url.added valid (askedQuery pattern) params)) ∨
      (∀ valid, ¬page.Allows pattern valid)
        ∧ ∃ message, page.address pattern params = .error (.pageNotOpened message) := by
  simp only [Allows, askedQuery, address]
  cases pattern.filter fun text => !text.isEmpty with
  | none => exact .inl ⟨page.config.pageUrl, ⟨h.own, rfl⟩, rfl⟩
  | some text =>
    simp only [matchingUrl]
    cases h_find : page.config.validUrls.find? fun url =>
        Text.occursIn (Text.trimEnd '/' (Url.splitQuery text).1.toList) url.toList with
    | some valid =>
      have h_occurs := List.find?_some h_find
      exact .inl ⟨valid, ⟨List.mem_of_find?_eq_some h_find, Text.occursIn_iff.mp h_occurs⟩, rfl⟩
    | none =>
      rw [List.find?_eq_none] at h_find
      refine .inr ⟨fun valid h_valid => ?_, _, rfl⟩
      exact h_find valid h_valid.1 (Text.occursIn_iff.mpr h_valid.2)

theorem address_of_unmatched {spec : PageSpec} {settings : Settings}
    (h_page : Page.ofSpec spec settings = .ok page) {pattern : String}
    (h : page.Unmatched pattern) (params : List (String × String)) :
    ∃ message, page.address (some pattern) params = .error (.pageNotOpened message) := by
  have h_some : pattern.isEmpty = false := by
    by_contra h_empty
    -- an empty pattern would occur in the own address
    have h_own := h _ (ofSpec_addresses h_page).own
    obtain rfl : pattern = "" := by simpa using h_empty
    exact h_own List.nil_infix
  rcases address_cases (ofSpec_addresses h_page) (some pattern) params
    with ⟨valid, ⟨h_valid, h_match⟩, -⟩ | ⟨-, h_error⟩
  · rw [Option.filter_some, h_some] at h_match
    exact absurd h_match (h valid h_valid)
  · exact h_error

-- ============================================================================
-- Openings
-- ============================================================================

/-- A page without an address to open is not opened, and nothing is done. -/
theorem visit_of_error {e : PageError} (h : page.address pattern params = .error e) (run : Run W) :
    visit pattern params ⟨driver, page⟩ run = (.error e, run) := by
  rw [visit, run_bind_ok (run_read _), h]
  rfl

/-- What holds when the address was gone to holds when the opening ends, if the waits keep it. -/
theorem visit_keeps (h_waits : Undisturbed ⟨driver, page⟩ inv) {url : String}
    (h : page.address pattern params = .ok url)
    (h_gone : inv (redirect url ⟨driver, page⟩ run).2) :
    inv (visit pattern params ⟨driver, page⟩ run).2 := by
  have h_rest : Keeps ⟨driver, page⟩ inv (do
      waitReady
      waitLoaders) :=
    .bind (waitReady_keeps h_waits) fun _ => waitLoaders_keeps h_waits
  rw [visit, run_bind_ok (run_read _), h, run_bind_ok (run_lift _ _), run_bind]
  rcases h_redirect : redirect url ⟨driver, page⟩ run with ⟨e | _, gone⟩
  · rw [h_redirect] at h_gone
    exact h_gone
  · rw [h_redirect] at h_gone
    exact Keeps.iff.mp h_rest gone h_gone

theorem redirect_destinations (url : String) (run : Run W) :
    (redirect url ⟨driver, page⟩ run).2.destinations = url :: run.destinations := by
  have h_forget : (forgetAll : Action W Unit) ⟨driver, page⟩ run
      = (.ok (), { run with memory := {} }) := rfl
  rw [redirect, run_bind_ok h_forget, run_pageCall]
  rfl

/-- The browser is told to go to the address that is opened, and nowhere else. -/
theorem visit_destinations {url : String} (h : page.address pattern params = .ok url)
    (run : Run W) :
    (visit pattern params ⟨driver, page⟩ run).2.destinations = url :: run.destinations :=
  visit_keeps (undisturbed_destinations driver page _) h (redirect_destinations url run)

/-- The browser is told to go to one address, if the pattern allows any, and else the opening fails
    and goes nowhere. The base of the address is that of an allowed one. Its pairs are those of the
    allowed one and then all that were asked for, unless the allowed one has a fragment, behind
    which all of them are lost, or has a query, and the pattern has one too. -/
theorem visit_navigates {spec : PageSpec} {settings : Settings}
    (h_page : Page.ofSpec spec settings = .ok page) (driver : Driver W) (pattern : Option String)
    (params : List (String × String)) (run : Run W) :
    (∃ opened valid, page.Allows pattern valid
        ∧ (visit pattern params ⟨driver, page⟩ run).2.destinations = opened :: run.destinations
        ∧ Url.baseOf opened = Url.baseOf valid
        ∧ (∀ fault, Url.parse valid = .error fault → Url.parse opened = .error fault)
        ∧ ∀ own, Url.parse valid = .ok own → ∃ shown, Url.parse opened = .ok shown
          ∧ (shown.pairs = own.pairs ++ askedPairs pattern params ↔
            (own.fragment.isSome = true → askedPairs pattern params = []) ∧
              (own.fragment = none → own.query.isSome = true → askedQuery pattern = ""))) ∨
      (∀ valid, ¬page.Allows pattern valid)
        ∧ (visit pattern params ⟨driver, page⟩ run).2.destinations = run.destinations
        ∧ ∃ message, (visit pattern params ⟨driver, page⟩ run).1
          = .error (.pageNotOpened message) := by
  have h_sound := ofSpec_addresses h_page
  rcases address_cases h_sound pattern params
    with ⟨valid, h_valid, h_address⟩ | ⟨h_none, message, h_address⟩
  · obtain ⟨u, h_written, rfl⟩ := h_sound.written valid h_valid.1
    obtain ⟨h_base, h_pairs⟩ :=
      Url.pairs_added_iff h_written (hash_not_mem_askedQuery pattern) params
    exact .inl ⟨_, _, h_valid, visit_destinations h_address run, h_base, h_pairs⟩
  · rw [visit_of_error h_address]
    exact .inr ⟨h_none, rfl, message, rfl⟩

end Page

/-- The page has a query, the pattern has one too, and the browser is sent to an address that does
    not have the pairs of both. -/
theorem visit_navigates_secondTab : ∃ page opened own shown,
    Page.ofSpec .secondTab .shop = .ok page
      ∧ (Page.visit (some "orders?x=1") [] ⟨Browser.driver, page⟩ { world := {} }).2.destinations
        = [opened]
      ∧ page.config.validUrls = ["http://shop.local/orders?tab=2"]
      ∧ Url.parse "http://shop.local/orders?tab=2" = .ok own ∧ Url.parse opened = .ok shown
      ∧ shown.pairs ≠ own.pairs ++ [("x", "1")] := by
  have h_query : Page.askedQuery (some "orders?x=1") = Form.render [("x", "1")] := by
    decide +kernel
  have h_asked : Page.askedPairs (some "orders?x=1") [] = [("x", "1")] := by
    rw [Page.askedPairs, h_query, Url.keptQuery_eq_self fun _ => Form.visible_of_mem_render,
      String.ofList_toList, Form.parse_renderPairs, List.append_nil]
  have h_own : Url.parse "http://shop.local/orders?tab=2" = .ok {
      scheme := "http"
      authority := some { userinfo := "", host := "shop.local", port := none }
      path := "/orders", query := some "tab=2", fragment := none } := by
    decide +kernel
  rcases Page.visit_navigates ofSpec_secondTab Browser.driver (some "orders?x=1") [] { world := {} }
    with ⟨opened, valid, h_allows, h_destinations, -, -, h_read⟩ | ⟨h_none, -⟩
  · obtain rfl := List.mem_singleton.mp h_allows.1
    obtain ⟨shown, h_shown, h_iff⟩ := h_read _ h_own
    refine ⟨.secondTab, opened, _, shown, ofSpec_secondTab, h_destinations, rfl, h_own, h_shown, ?_⟩
    intro h_pairs
    rw [← h_asked] at h_pairs
    exact absurd ((h_iff.mp h_pairs).2 rfl rfl) (by decide +kernel)
  · have h_occurs : Text.occursIn (Text.trimEnd '/' (Url.splitQuery "orders?x=1").1.toList)
        "http://shop.local/orders?tab=2".toList = true := by
      decide +kernel
    exact absurd ⟨List.mem_singleton_self _, Text.occursIn_iff.mp h_occurs⟩ (h_none _)

end PageObjects
