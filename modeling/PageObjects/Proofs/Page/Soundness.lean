/-
  PageObjects.Proofs.Page.Soundness

  Which declarations make a page, and what a page has of a sound one. The checks are
  turned into what they ask for, one lemma for each, and put together over the steps
  that a declaration is made of.

    * `PageConfig.resolve_of_route`: when a configuration can be completed, and to what.
    * `Page.ofSpec_eq_ok_iff`: when a declaration is a page, and which.
    * `PageSpec.slots_ofSteps`: the names of the slots of a declaration are those that its
      steps add.
    * `Page.nestedTable_knowsParent`: nested tables never lack the table around them.
    * `Page.ofSpec_iff_sound`: the sound declarations, and what their pages have.
-/

import Mathlib.Data.List.Forall2
import Mathlib.Data.List.Induction
import PageObjects.Page.Declaration
import PageObjects.Proofs.Action.Mishap
import PageObjects.Proofs.Action.Steady
import PageObjects.Proofs.Page.Arrival
import PageObjects.Proofs.Page.Slots

namespace PageObjects

-- ============================================================================
-- Results one after the other
-- ============================================================================

section
variable {ε α β : Type}

theorem bind_eq_ok_iff {x : Except ε α} {f : α → Except ε β} {b : β} :
    x >>= f = .ok b ↔ ∃ a, x = .ok a ∧ f a = .ok b := by
  refine ⟨exists_of_bind_eq_ok, ?_⟩
  rintro ⟨a, rfl, h_b⟩
  exact h_b

/-- The results of a list are there exactly if each item has its result. -/
theorem mapM_eq_ok_iff {f : α → Except ε β} {l : List α} {r : List β} :
    l.mapM f = .ok r ↔ List.Forall₂ (fun a b => f a = .ok b) l r := by
  induction l generalizing r with
  | nil => cases r <;> simp [pure, Except.pure]
  | cons a rest ih =>
    rw [List.mapM_cons, List.forall₂_cons_left_iff]
    simp only [bind_eq_ok_iff, ih]
    constructor
    · rintro ⟨b, h_b, bs, h_bs, h_end⟩
      exact ⟨b, bs, h_b, h_bs, (Except.ok.inj h_end).symm⟩
    · rintro ⟨b, bs, h_b, h_bs, rfl⟩
      exact ⟨b, h_b, bs, h_bs, rfl⟩

theorem exists_forall₂_iff {rel : α → β → Prop} {l : List α} :
    (∃ r, List.Forall₂ rel l r) ↔ ∀ a ∈ l, ∃ b, rel a b := by
  induction l with
  | nil => simp
  | cons a rest ih =>
    rw [List.forall_mem_cons, ← ih]
    simp only [List.forall₂_cons_left_iff]
    constructor
    · rintro ⟨_, b, bs, h_b, h_bs, -⟩
      exact ⟨⟨b, h_b⟩, bs, h_bs⟩
    · rintro ⟨⟨b, h_b⟩, bs, h_bs⟩
      exact ⟨_, b, bs, h_b, h_bs, rfl⟩

end

-- ============================================================================
-- Configurations
-- ============================================================================

theorem Settings.app_eq_ok_iff {settings : Settings} {name : String} {app : AppConfig} :
    settings.app name = .ok app ↔ settings.apps.lookup name = some app := by
  rw [Settings.app]
  cases settings.apps.lookup name <;> simp

theorem Settings.requireBaseUrl_eq_ok_iff {name text : String} {app : AppConfig} :
    requireBaseUrl name app = .ok text ↔ app.baseUrl = some text := by
  rw [requireBaseUrl]
  cases app.baseUrl <;> simp

namespace PageConfig

variable {config : PageConfig} {settings : Settings} {app : AppConfig} {base : Url}
  {route : String} {resolved : ResolvedConfig}

/-- The text is that of a route joined onto an address. -/
def IsJoined (base : Url) (route text : String) : Prop :=
  ∃ url, base.join route = .ok url ∧ url.render = text

theorem IsJoined.unique {text other : String} (h : IsJoined base route text)
    (h_other : IsJoined base route other) : text = other := by
  obtain ⟨url, h_join, rfl⟩ := h
  obtain ⟨_, h_same, rfl⟩ := h_other
  obtain rfl := Except.ok.inj (h_join.symm.trans h_same)
  rfl

/-- What it takes to complete a configuration: its application has an address, it has a route,
    all routes can be joined onto the address, and it or its application gives each class. -/
structure Completed (config : PageConfig) (settings : Settings) (app : AppConfig) (base : Url)
    (route : String) : Prop where
  configured : settings.apps.lookup config.app = some app
  addressed : ∃ text, app.baseUrl = some text ∧ Url.parse text = .ok base
  routed : config.url = some route
  joins : ∀ other ∈ config.validUrls ++ [route], ∃ text, IsJoined base other text
  pageLoader : (config.pageLoaderClass.or app.pageLoaderClass).isSome = true
  tableLoader : (config.tableLoaderClass.or app.tableLoaderClass).isSome = true
  modalVisible : (config.modalVisibleClass.or app.modalVisibleClass).isSome = true

theorem addressed_eq_ok_iff {α : Type} {result : Except UrlFault α} {a : α} :
    PageConfig.addressed result = .ok a ↔ result = .ok a := by
  cases result <;> simp [PageConfig.addressed, Except.mapError]

theorem joined_eq_ok_iff {text : String} :
    joined base route = .ok text ↔ IsJoined base route text := by
  rw [joined, PageConfig.addressed, IsJoined]
  cases base.join route <;> simp [Except.mapError, Except.map]

theorem requireClass_eq_ok_iff {name key value : String} {own shared : Option String} :
    requireClass name key own shared = .ok value ↔ own.or shared = some value := by
  rw [requireClass]
  cases own.or shared <;> simp

theorem resolve_of_no_route (h : config.url = none) : config.resolve settings ≠ .ok resolved := by
  intro h_ok
  simp only [resolve, h, bind_eq_ok_iff] at h_ok
  obtain ⟨_, _, _, _, _, _, _, h_route, _⟩ := h_ok
  cases h_route

/-- With a route, what is left are the application, its address, the joined routes and the
    classes. -/
theorem resolve_of_route (h : config.url = some route) :
    config.resolve settings = .ok resolved ↔
      ∃ app, settings.apps.lookup config.app = some app
        ∧ ∃ baseUrl, app.baseUrl = some baseUrl
        ∧ ∃ base, Url.parse baseUrl = .ok base
        ∧ ∃ pageUrl, IsJoined base route pageUrl
        ∧ ∃ validUrls, List.Forall₂ (IsJoined base) (config.validUrls ++ [route]) validUrls
        ∧ ∃ pageLoader, config.pageLoaderClass.or app.pageLoaderClass = some pageLoader
        ∧ ∃ tableLoader, config.tableLoaderClass.or app.tableLoaderClass = some tableLoader
        ∧ ∃ modalVisible, config.modalVisibleClass.or app.modalVisibleClass = some modalVisible
        ∧ resolved = {
          app := config.app, baseUrl, pageUrl, validUrls
          hasPageReadyScript := app.hasPageReadyScript
          pageLoaderClass := pageLoader, tableLoaderClass := tableLoader
          modalVisibleClass := modalVisible } := by
  simp only [resolve, h, bind_eq_ok_iff, Settings.app_eq_ok_iff,
    Settings.requireBaseUrl_eq_ok_iff, addressed_eq_ok_iff, mapM_eq_ok_iff, joined_eq_ok_iff,
    requireClass_eq_ok_iff, Except.ok.injEq, exists_eq_left', eq_comm (b := resolved)]

/-- A configuration that is completed gets the addresses of its routes, its own behind the
    further ones. -/
theorem completed_of_resolve (h : config.resolve settings = .ok resolved) :
    ∃ app base route, config.Completed settings app base route
      ∧ List.Forall₂ (IsJoined base) (config.validUrls ++ [route]) resolved.validUrls
      ∧ resolved.validUrls.getLast? = some resolved.pageUrl := by
  cases h_route : config.url with
  | none => exact absurd h (resolve_of_no_route h_route)
  | some route =>
    obtain ⟨app, h_app, baseUrl, h_baseUrl, base, h_base, pageUrl, h_page, validUrls, h_valid,
      _, h_pageLoader, _, h_tableLoader, _, h_modal, rfl⟩ := (resolve_of_route h_route).mp h
    refine ⟨app, base, route, ?_, h_valid, ?_⟩
    · exact {
        configured := h_app
        addressed := ⟨baseUrl, h_baseUrl, h_base⟩
        routed := h_route
        joins := exists_forall₂_iff.mp ⟨validUrls, h_valid⟩
        pageLoader := Option.isSome_of_eq_some h_pageLoader
        tableLoader := Option.isSome_of_eq_some h_tableLoader
        modalVisible := Option.isSome_of_eq_some h_modal }
    · obtain ⟨text, others, h_text, -, h_last⟩ := List.forall₂_cons_left_iff.mp
        (List.reverse_concat ▸ List.forall₂_reverse_iff.mpr h_valid)
      rw [← List.head?_reverse, h_last, List.head?_cons, h_text.unique h_page]

theorem Completed.resolve (h : config.Completed settings app base route) :
    ∃ resolved, config.resolve settings = .ok resolved := by
  obtain ⟨baseUrl, h_baseUrl, h_base⟩ := h.addressed
  obtain ⟨pageUrl, h_page⟩ := h.joins route (List.mem_append_right _ (List.mem_singleton_self _))
  obtain ⟨validUrls, h_valid⟩ := exists_forall₂_iff.mpr h.joins
  obtain ⟨pageLoader, h_pageLoader⟩ := Option.isSome_iff_exists.mp h.pageLoader
  obtain ⟨tableLoader, h_tableLoader⟩ := Option.isSome_iff_exists.mp h.tableLoader
  obtain ⟨modalVisible, h_modal⟩ := Option.isSome_iff_exists.mp h.modalVisible
  exact ⟨_, (resolve_of_route h.routed).mpr ⟨app, h.configured, baseUrl, h_baseUrl, base, h_base,
    pageUrl, h_page, validUrls, h_valid, pageLoader, h_pageLoader, tableLoader, h_tableLoader,
    modalVisible, h_modal, rfl⟩⟩

end PageConfig

-- ============================================================================
-- Declarations and pages
-- ============================================================================

theorem PageSpec.firstOrphan?_eq_none_iff (spec : PageSpec) :
    spec.firstOrphan? = none
      ↔ ∀ entry ∈ spec.nested, entry.2.parent ∈ spec.tables.map (·.1) := by
  rw [firstOrphan?, Option.map_eq_none_iff, List.find?_eq_none]
  simp only [Bool.not_eq_true', Bool.not_eq_false, List.contains_iff_mem]

/-- A declaration is a page exactly if no slot is declared twice, nested tables are inside declared
    tables, and its configuration can be completed. -/
theorem Page.ofSpec_eq_ok_iff {spec : PageSpec} {settings : Settings} {page : Page} :
    ofSpec spec settings = .ok page ↔
      spec.slots.Nodup
        ∧ (∀ entry ∈ spec.nested, entry.2.parent ∈ spec.tables.map (·.1))
        ∧ ∃ config, spec.config.resolve settings = .ok config
          ∧ page = {
            name := spec.name, settings, config, elements := spec.elements, tables := spec.tables
            groups := spec.groups, nested := spec.nested } := by
  have h_slots := PageSpec.firstRepeated?_eq_none_iff [] spec.slots
  simp only [List.not_mem_nil, not_false_eq_true, implies_true, and_true] at h_slots
  rw [← h_slots, ← PageSpec.firstOrphan?_eq_none_iff, ofSpec]
  cases PageSpec.firstRepeated? [] spec.slots with
  | some slot => exact iff_of_false nofun nofun
  | none =>
    cases spec.firstOrphan? with
    | some orphan => exact iff_of_false nofun nofun
    | none =>
      simp only [true_and]
      exact bind_eq_ok_iff.trans (by simp only [Except.ok.injEq, eq_comm (b := page)])

namespace PageSpec

variable (name app : String) (steps : List Step)

theorem ofSteps_concat (step : Step) :
    ofSteps name app (steps ++ [step]) = (ofSteps name app steps).take step := by
  rw [ofSteps, List.foldl_append]
  rfl

/-- The slots of a step come among those of its kind, so only their order differs. -/
theorem slots_take (spec : PageSpec) (step : Step) :
    (spec.take step).slots.Perm (spec.slots ++ step.slots) := by
  refine List.perm_iff_count.mpr fun name => ?_
  cases step <;>
    simp only [take, withSection, slots, Step.slots, Section.slots, List.map_append, List.map_cons,
      List.map_nil, List.count_append, List.count_nil] <;>
    omega

theorem tables_take (spec : PageSpec) (step : Step) :
    (spec.take step).tables.map (·.1) = spec.tables.map (·.1) ++ step.tableSlots := by
  cases step <;> simp [take, withSection, Step.tableSlots]

theorem mem_nested_take (spec : PageSpec) (step : Step) (entry : String × NestedSpec) :
    entry ∈ (spec.take step).nested ↔ entry ∈ spec.nested ∨ step = .nested entry.1 entry.2 := by
  cases step <;> simp [take, withSection, Prod.ext_iff, eq_comm]

/-- The slots of a declaration are those that its steps add. -/
theorem slots_ofSteps : (ofSteps name app steps).slots.Perm (steps.flatMap Step.slots) := by
  induction steps using List.reverseRecOn with
  | nil => exact .nil
  | append_singleton steps step ih =>
    rw [ofSteps_concat, List.flatMap_append, List.flatMap_singleton]
    exact (slots_take _ step).trans (ih.append_right step.slots)

theorem tables_ofSteps :
    (ofSteps name app steps).tables.map (·.1) = steps.flatMap Step.tableSlots := by
  induction steps using List.reverseRecOn with
  | nil => rfl
  | append_singleton steps step ih =>
    rw [ofSteps_concat, tables_take, ih, List.flatMap_append, List.flatMap_singleton]

theorem mem_nested_ofSteps (entry : String × NestedSpec) :
    entry ∈ (ofSteps name app steps).nested ↔ .nested entry.1 entry.2 ∈ steps := by
  induction steps using List.reverseRecOn with
  | nil => exact iff_of_false List.not_mem_nil List.not_mem_nil
  | append_singleton steps step ih =>
    rw [ofSteps_concat, mem_nested_take, ih, List.mem_append, List.mem_singleton,
      eq_comm (a := step)]

end PageSpec

-- ============================================================================
-- Nested tables
-- ============================================================================

theorem Keyed.isSome_of_mem_keys {κ α : Type} [DecidableEq κ] {key : κ} {entries : Keyed κ α}
    (h : key ∈ entries.map (·.1)) : (entries.find? key).isSome = true := by
  induction entries with
  | nil => cases h
  | cons entry rest ih =>
    rw [find?]
    split
    · rfl
    · rename_i h_ne
      rcases List.mem_cons.mp h with h_eq | h_rest
      · exact absurd h_eq.symm h_ne
      · exact ih h_rest

namespace Page

open PageObjects.Action

variable {W : Type} {driver : Driver W} {page : Page}

/-- Every nested slot is inside a table slot of the page. -/
def KnowsParents (page : Page) : Prop :=
  ∀ entry ∈ page.nested, entry.2.parent ∈ page.tables.map (·.1)

/-- The error of nested tables for which the table around them is not known. -/
def unknownParent (parent : String) : PageError :=
  .config ("Unknown parent table " ++ Text.quoted parent)

/-- The error says something else than that the table around nested ones is not known. -/
def KnowsParent (e : PageError) : Prop :=
  ∀ parent, e ≠ unknownParent parent

theorem knowsParent_of_isMishap {e : PageError} (h : e.IsMishap) : KnowsParent e := by
  rintro parent rfl
  cases h

theorem knowsParent_noSlot (page : Page) (kind slot : String) :
    KnowsParent (page.noSlot kind slot) := by
  intro parent h_eq
  have h_text := congrArg String.toList (PageError.config.inj h_eq)
  simp only [String.toList_append] at h_text
  cases h_text

/-- A nested slot of such a page has its table, and the search for it is at fault for nothing but
    what the browser does. -/
theorem nestedTable_knowsParent (h : page.KnowsParents) (slot : String) (index : Nat) :
    Fails ⟨driver, page⟩ (nestedTable slot index : Action W Table) KnowsParent := by
  refine rememberedTable_fails (fun e => knowsParent_of_isMishap) ?_ _
  intro run _
  cases h_nested : page.nested.find? slot with
  | none =>
    rw [run_bind, run_declared_none h_nested]
    exact knowsParent_noSlot page _ slot
  | some nested =>
    have h_parent := Keyed.isSome_of_mem_keys (h _ (Keyed.mem_of_find? h_nested))
    obtain ⟨parent, h_parent⟩ := Option.isSome_iff_exists.mp h_parent
    rw [run_bind_ok (run_declared h_nested run), run_bind_ok (run_read run)]
    simp only [h_parent]
    exact (Table.load_fails _ _ _).weaken (fun e => knowsParent_of_isMishap) run trivial

end Page

-- ============================================================================
-- Sound declarations
-- ============================================================================

/-- What makes a declaration sound: its steps add no two slots of one name, nested tables are inside
    table slots, and its configuration can be completed. -/
structure PageSpec.SoundSteps (name app : String) (steps : List PageSpec.Step)
    (settings : Settings) : Prop where
  apart : (steps.flatMap Step.slots).Nodup
  parents : ∀ slot nested, .nested slot nested ∈ steps →
    nested.parent ∈ steps.flatMap Step.tableSlots
  completed : ∃ appConfig base route,
    (ofSteps name app steps).config.Completed settings appConfig base route

namespace Page

variable {W : Type}

/-- A declaration is a page exactly if it is sound. The page is then shown at its further routes,
    joined onto the address of the application in their order, and at its own route behind them;
    and whatever has happened before, nested tables never lack the table around them. -/
theorem ofSpec_iff_sound (name app : String) (steps : List PageSpec.Step) (settings : Settings) :
    let spec := PageSpec.ofSteps name app steps
    ((∃ page, ofSpec spec settings = .ok page) ↔ PageSpec.SoundSteps name app steps settings)
      ∧ ∀ page, ofSpec spec settings = .ok page →
        (∃ appConfig base route, spec.config.Completed settings appConfig base route
            ∧ List.Forall₂ (PageConfig.IsJoined base) (spec.config.validUrls ++ [route])
              page.config.validUrls)
          ∧ page.config.validUrls.getLast? = some page.config.pageUrl
          ∧ ∀ (driver : Driver W) (run : Run W) (slot : String) (index : Nat) (parent : String),
            (nestedTable slot index ⟨driver, page⟩ run).1 ≠ .error (unknownParent parent) := by
  intro spec
  have h_slots : spec.slots.Nodup ↔ (steps.flatMap PageSpec.Step.slots).Nodup :=
    (PageSpec.slots_ofSteps name app steps).nodup_iff
  have h_parents : (∀ entry ∈ spec.nested, entry.2.parent ∈ spec.tables.map (·.1))
      ↔ ∀ slot nested, .nested slot nested ∈ steps →
        nested.parent ∈ steps.flatMap PageSpec.Step.tableSlots := by
    simp only [spec, PageSpec.mem_nested_ofSteps, PageSpec.tables_ofSteps, Prod.forall]
  refine ⟨⟨?_, ?_⟩, ?_⟩
  · rintro ⟨page, h_page⟩
    obtain ⟨h_apart, h_inside, config, h_config, -⟩ := ofSpec_eq_ok_iff.mp h_page
    obtain ⟨appConfig, base, route, h_completed, -⟩ := PageConfig.completed_of_resolve h_config
    exact ⟨h_slots.mp h_apart, h_parents.mp h_inside, appConfig, base, route, h_completed⟩
  · rintro ⟨h_apart, h_inside, appConfig, base, route, h_completed⟩
    obtain ⟨config, h_config⟩ := h_completed.resolve
    exact ⟨_, ofSpec_eq_ok_iff.mpr
      ⟨h_slots.mpr h_apart, h_parents.mpr h_inside, config, h_config, rfl⟩⟩
  · intro page h_page
    obtain ⟨-, h_inside, config, h_config, h_eq⟩ := ofSpec_eq_ok_iff.mp h_page
    have h_knows : page.KnowsParents := by
      rw [h_eq]
      exact h_inside
    obtain ⟨appConfig, base, route, h_completed, h_valid, h_last⟩ :=
      PageConfig.completed_of_resolve h_config
    obtain rfl : page.config = config := by rw [h_eq]
    refine ⟨⟨appConfig, base, route, h_completed, h_valid⟩, h_last, ?_⟩
    intro driver run slot index parent h_error
    exact (nestedTable_knowsParent h_knows slot index).of_error h_error parent rfl

end Page

/-- A declaration with tables inside a table, and with a section. -/
def PageSpec.stepsWithMenu : List PageSpec.Step := [
  .merge { name := "menu", elements := [("home", .one (.id "home"))] },
  .url "orders",
  .validUrl "orders/all",
  .element "home" (.one (.id "start")),
  .nested "items" { parent := "orders", baseName := "item", spec := {} },
  .table "orders" {}]

/-- The slot of the section is not the one of that name on the page, and the table may be declared
    behind the ones that are nested in it. -/
theorem Page.ofSpec_iff_sound_menu : ∃ page,
    ofSpec (.ofSteps "Orders" "shop" PageSpec.stepsWithMenu) .shop = .ok page
      ∧ page.config.validUrls = ["http://shop.local/orders/all", "http://shop.local/orders"]
      ∧ page.config.pageUrl = "http://shop.local/orders"
      ∧ (nestedTable "items" 1 ⟨Browser.driver, page⟩ { world := {} }).1
        ≠ .error (unknownParent "orders") := by
  have h_config : (PageSpec.ofSteps "Orders" "shop" PageSpec.stepsWithMenu).config.resolve .shop
      = .ok { Page.secondTab.config with
        pageUrl := "http://shop.local/orders"
        validUrls := ["http://shop.local/orders/all", "http://shop.local/orders"] } := by
    decide +kernel
  obtain ⟨page, h_page, h_same⟩ : ∃ page,
      ofSpec (.ofSteps "Orders" "shop" PageSpec.stepsWithMenu) .shop = .ok page
        ∧ page.config.validUrls = ["http://shop.local/orders/all", "http://shop.local/orders"] :=
    ⟨_, ofSpec_eq_ok_iff.mpr ⟨by decide, by decide, _, h_config, rfl⟩, rfl⟩
  obtain ⟨-, h_last, h_known⟩ :=
    (ofSpec_iff_sound "Orders" "shop" PageSpec.stepsWithMenu .shop).2 page h_page
  rw [h_same] at h_last
  exact ⟨page, h_page, h_same, (Option.some.inj h_last).symm, h_known _ _ _ _ _⟩

end PageObjects
