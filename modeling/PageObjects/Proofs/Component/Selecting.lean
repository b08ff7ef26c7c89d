/-
  PageObjects.Proofs.Component.Selecting

  Which nodes a drop-down list clicks. A test types into the search box, opens the list
  by a click on its container, and then goes through the options that are listed: it
  clicks those that are not selected yet, and stops after the first one unless all of
  several are asked for.

    * `Select.chooseFrom_moves`: the loop, by induction on the options.
    * `Select.findOptions_moves`: the list is opened and gives the options, none if the
      only one is disabled.
    * `Select.selectByText_clicks`: the whole.
-/

import PageObjects.Component.Select
import PageObjects.Proofs.Component.Touching

namespace PageObjects

open PageObjects.Action

-- ============================================================================
-- The loop over the options
-- ============================================================================

variable {W : Type} {context : Context W} {view : W → Browser} {keep : W → Prop} {run : Run W}

/-- A wait for what a look finds ends with the first look if that is judged well. -/
theorem Action.run_waitKeeping_of_yes {α : Type} {options : WaitOptions} {waitedFor : String}
    {initial found : α} {look : Action W α} {judge : α → Action W Bool} {looked judged : Run W}
    (h_look : look context run = (.ok found, looked))
    (h_judge : judge found context looked = (.ok true, judged)) :
    waitKeeping options waitedFor initial look judge context run
      = (.ok (.ok (), found), judged) := by
  simp only [waitKeeping, Wait.yes, Wait.yes?, Wait.poll, Wait.pollOnce, h_look, h_judge,
    Wait.judge, Option.getD_some]
  rfl

namespace Select

open Browser (Tidy Alters Clicked)

/-- The nodes that a test clicks to select among some options: those that are not selected, of the
    first one or of all. -/
def chosen (browser : Browser) (all : Bool) (options : List String) : List String :=
  (if all then options else options.take 1).filter fun node => !(browser.node node).isSelected

theorem chosen_cons (browser : Browser) (all : Bool) (node : String) (rest : List String) :
    chosen browser all (node :: rest)
      = (if (browser.node node).isSelected then [] else [node])
        ++ if all then chosen browser all rest else [] := by
  cases h_flag : (browser.node node).isSelected <;> cases all <;> simp [chosen, h_flag]

/-- Nodes that were not touched are chosen as before. -/
theorem chosen_of_alters {stage browser : Browser} {touched : List String}
    (h_alters : Alters touched stage browser) (all : Bool) {options : List String}
    (h_apart : ∀ option ∈ options, option ∉ touched) :
    chosen browser all options = chosen stage all options := by
  refine List.filter_congr fun node h_mem => ?_
  have h_option : node ∈ options := by
    cases all with
    | true => exact h_mem
    | false => exact List.mem_of_mem_take h_mem
  rw [(h_alters.alike node (h_apart node h_option)).isSelected]

section steps

variable (h_falters : context.driver.Falters view keep) (h_tidy : ∀ w, keep w → (view w).Tidy)
  (h : run.Ready keep)

include h_falters h_tidy h

/-- An option is clicked unless it is selected. -/
theorem choose_moves {option : Handle} {node : String} (h_names : run.Names view option node)
    (h_can : (view run.world).CanClick node)
    (h_window : ∃ window, (view run.world).windows = [window]) :
    ∃ run', choose option context run = (.ok (), run')
      ∧ run.Moves view keep
        (Clicked (if ((view run.world).node node).isSelected then [] else [node])) run' := by
  have h_query : ∃ seen, option.isSelected context run
        = (.ok ((view run.world).node node).isSelected, seen)
      ∧ run.Moves view keep Browser.Looked seen :=
    Handle.perform_query h_falters h h_names rfl rfl
  obtain ⟨seen, h_selected, h_moves⟩ := h_query
  cases h_flag : ((view run.world).node node).isSelected with
  | true =>
    rw [h_flag] at h_selected
    exact ⟨seen, by rw [choose, run_bind_ok h_selected]; rfl, h_moves.weaken Clicked.of_looked⟩
  | false =>
    rw [h_flag] at h_selected
    have h_same := Clicked.of_looked h_moves.world
    obtain ⟨clicked, h_click, h_moves'⟩ := Handle.click_focus_moves h_falters h_moves.ready
      (h_moves.names h_same.alters.frame h_names) (h_same.alters.canClick h_can)
      fun browser h_acted => by
        obtain ⟨window, h_windows⟩ := h_window
        have h_clicked := Clicked.of_acted (h_tidy _ h_moves.ready.kept) h_acted
        exact ⟨window, h_clicked.alters.windows.trans (h_same.alters.windows.trans h_windows)⟩
    refine ⟨clicked, by rw [choose, run_bind_ok h_selected]; exact h_click, ?_⟩
    exact (h_moves.look_act h_moves').weaken (Clicked.of_acted (h_tidy _ h.kept))

/-- The loop clicks the chosen ones among options with different nodes. -/
theorem chooseFrom_moves {options : List Handle} {nodes : List String}
    (h_names : run.NamesAll view options nodes) (h_nodup : nodes.Nodup)
    (h_can : ∀ node ∈ nodes, (view run.world).CanClick node)
    (h_window : ∃ window, (view run.world).windows = [window]) (all : Bool) :
    ∃ run', chooseFrom all options context run = (.ok (), run')
      ∧ run.Moves view keep (Clicked (chosen (view run.world) all nodes)) run' := by
  induction options generalizing run nodes with
  | nil =>
    cases h_names
    have h_none : chosen (view run.world) all [] = [] := by cases all <;> rfl
    rw [h_none]
    exact ⟨run, rfl, (Run.Moves.refl h).weaken Clicked.of_looked⟩
  | cons option rest ih =>
    obtain - | ⟨h_option, h_rest⟩ := h_names
    rename_i node others
    obtain ⟨h_apart, h_nodup⟩ := List.nodup_cons.mp h_nodup
    obtain ⟨between, h_choose, h_moves⟩ := choose_moves h_falters h_tidy h h_option
      (h_can node List.mem_cons_self) h_window
    have h_alters := h_moves.world.alters
    rw [chosen_cons]
    cases all with
    | false =>
      refine ⟨between, by rw [chooseFrom, run_bind_ok h_choose]; rfl, ?_⟩
      rw [if_neg Bool.false_ne_true, List.append_nil]
      exact h_moves
    | true =>
      have h_others : ∀ other ∈ others,
          other ∉ if ((view run.world).node node).isSelected then [] else [node] := by
        intro other h_mem h_touched
        split at h_touched
        · cases h_touched
        · exact h_apart (List.mem_singleton.mp h_touched ▸ h_mem)
      have h_can' : ∀ other ∈ others, (view between.world).CanClick other := fun other h_mem =>
        h_alters.canClick (h_can other (List.mem_cons_of_mem _ h_mem))
      obtain ⟨window, h_windows⟩ := h_window
      obtain ⟨run', h_loop, h_moves'⟩ := ih h_moves.ready (h_moves.namesAll h_alters.frame h_rest)
        h_nodup h_can' ⟨window, h_alters.windows.trans h_windows⟩
      rw [chosen_of_alters h_alters true h_others] at h_moves'
      refine ⟨run', by rw [chooseFrom, run_bind_ok h_choose]; exact h_loop, ?_⟩
      exact h_moves.trans h_moves' Clicked.trans

end steps

-- ============================================================================
-- Opening the list
-- ============================================================================

/-- The list in `container` can be opened and offers some options for a locator; the first of
    them is a real one. -/
structure Offers (locator : Locator) (container : String) (options : List String)
    (browser : Browser) : Prop where
  window : ∃ window, browser.windows = [window]
  canClick : ∀ node ∈ container :: options, browser.CanClick node
  panel : ∃ panel, (browser.namesIn (.tagName "ng-dropdown-panel")).head? = some panel
    ∧ (browser.node panel).isDisplayed = true
  options_eq : (browser.node container).namesIn locator = options
  nodup : (container :: options).Nodup
  loaded : ∃ first, options.head? = some first ∧ isPlaceholder (browser.node first).text = false

/-- The option is the one that stands there when nothing matches. -/
def isDisabledNode (browser : Browser) (option : String) : Bool :=
  (Text.words (((browser.node option).attributes.find? "class").getD "")).contains
    "ng-option-disabled"

/-- The options that a test can choose from: none if the only one is disabled. -/
def offered (browser : Browser) : List String → List String
  | [only] => if isDisabledNode browser only then [] else [only]
  | options => options

theorem Offers.apart {browser : Browser} {locator : Locator} {container : String}
    {options : List String} (h : Offers locator container options browser) :
    ∀ option ∈ options, option ∉ [container] := by
  intro option h_mem h_container
  rw [List.mem_singleton] at h_container
  exact (List.nodup_cons.mp h.nodup).1 (h_container ▸ h_mem)

theorem Offers.of_alters {stage browser : Browser} {locator : Locator} {container : String}
    {options touched : List String} (h : Offers locator container options stage)
    (h_alters : Alters touched stage browser) (h_apart : ∀ option ∈ options, option ∉ touched) :
    Offers locator container options browser := by
  obtain ⟨window, h_windows⟩ := h.window
  obtain ⟨panel, h_panel, h_displayed⟩ := h.panel
  obtain ⟨first, h_first, h_text⟩ := h.loaded
  refine ⟨⟨window, h_alters.windows.trans h_windows⟩,
    fun node h_mem => h_alters.canClick (h.canClick node h_mem),
    ⟨panel, by rw [h_alters.frame.namesIn_eq, h_panel], h_alters.displayed panel h_displayed⟩,
    ?_, h.nodup, first, h_first, ?_⟩
  · have h_children := congrArg Browser.Node.children (h_alters.frame.node container)
    have h_names : (browser.node container).namesIn locator
        = (stage.node container).namesIn locator :=
      congrArg (fun children : Keyed String (List String) =>
        (children.find? locator.value).getD []) h_children
    rw [h_names, h.options_eq]
  · rw [(h_alters.alike first (h_apart first (List.mem_of_head? h_first))).text, h_text]

theorem isDisabledNode_of_alters {stage browser : Browser} {option : String}
    {touched : List String} (h_alters : Alters touched stage browser) (h_apart : option ∉ touched) :
    isDisabledNode browser option = isDisabledNode stage option := by
  rw [isDisabledNode, (h_alters.alike option h_apart).attributes, isDisabledNode]

theorem offered_of_alters {stage browser : Browser} {options touched : List String}
    (h_alters : Alters touched stage browser) (h_apart : ∀ option ∈ options, option ∉ touched) :
    offered browser options = offered stage options := by
  match options with
  | [] => rfl
  | [only] =>
    rw [offered, offered, isDisabledNode_of_alters h_alters (h_apart only List.mem_cons_self)]
  | _ :: _ :: _ => rfl

/-- The panel is displayed once the list is open. -/
theorem isOpen_moves (h_falters : context.driver.Falters view keep) (h : run.Ready keep)
    {locator : Locator} {container : String} {options : List String}
    (h_offers : Offers locator container options (view run.world)) :
    ∃ run', isOpen context run = (.ok true, run') ∧ run.Moves view keep Browser.Looked run' := by
  obtain ⟨panel, h_panel, h_displayed⟩ := h_offers.panel
  obtain ⟨found, looked, h_found, h_moves, h_names⟩ := Page.find_moves h_falters h h_panel
  obtain ⟨run', h_shown, h_moves'⟩ := Handle.isDisplayed_moves h_falters h_moves.ready h_names
  rw [h_moves.world.node_eq, h_displayed] at h_shown
  exact ⟨run', by rw [isOpen, run_bind_ok h_found]; exact h_shown, h_moves.looked h_moves'⟩

/-- Whether an option is disabled is read off its classes. -/
theorem isDisabled_moves (h_falters : context.driver.Falters view keep) (h : run.Ready keep)
    {option : Handle} {node : String} (h_names : run.Names view option node) :
    ∃ run', isDisabled option context run = (.ok (isDisabledNode (view run.world) node), run')
      ∧ run.Moves view keep Browser.Looked run' := by
  have h_query : ∃ run', option.attributeValue "class" context run
        = (.ok (((view run.world).node node).attributes.find? "class"), run')
      ∧ run.Moves view keep Browser.Looked run' :=
    Handle.perform_query h_falters h h_names rfl rfl
  obtain ⟨run', h_class, h_moves⟩ := h_query
  exact ⟨run', by rw [isDisabled, run_bind_ok h_class]; rfl, h_moves⟩

/-- Gives those options of a list that a test can choose from: none if the only one is disabled. -/
def choices (options : List Handle) : Action W (List Handle) :=
  match options with
  | [only] => do return if ← isDisabled only then [] else options
  | _ => return options

theorem choices_moves (h_falters : context.driver.Falters view keep) (h : run.Ready keep)
    {options : List Handle} {nodes : List String} (h_names : run.NamesAll view options nodes) :
    ∃ found run', choices options context run = (.ok found, run')
      ∧ run.Moves view keep Browser.Looked run'
      ∧ run'.NamesAll view found (offered (view run.world) nodes) := by
  rcases h_names with - | ⟨h_first, - | ⟨h_second, h_rest⟩⟩
  case nil => exact ⟨[], run, rfl, .refl h, .nil⟩
  case cons.nil =>
    rename_i option node
    obtain ⟨run', h_disabled, h_moves⟩ := isDisabled_moves h_falters h h_first
    refine ⟨if isDisabledNode (view run.world) node then [] else [option], run', ?_, h_moves, ?_⟩
    · exact run_bind_ok h_disabled
    · rw [offered]
      split
      · exact .nil
      · exact .cons (h_moves.names h_moves.world.sameFrame h_first) .nil
  case cons.cons => exact ⟨_, run, rfl, .refl h, .cons h_first (.cons h_second h_rest)⟩

section opening

variable (h_falters : context.driver.Falters view keep) (h : run.Ready keep) {select : Select}
  {locator : Locator} {container : String} {options : List String}
  (h_container : run.Names view select.container container)
  (h_offers : Offers locator container options (view run.world))

include h_falters h h_container h_offers

/-- Options that are there are not waited for. -/
theorem waitLoaded_moves : ∃ found run', select.waitLoaded locator context run = (.ok found, run')
    ∧ run.Moves view keep Browser.Looked run' ∧ run'.NamesAll view found options := by
  obtain ⟨found, looked, h_look, h_moves, h_found⟩ :=
    Handle.findAll_moves h_falters h h_container locator
  rw [h_offers.options_eq] at h_found
  obtain ⟨first, h_first, h_text⟩ := h_offers.loaded
  obtain ⟨rest, rfl⟩ := List.head?_eq_some_iff.mp h_first
  obtain - | ⟨h_option, h_rest⟩ := h_found
  rename_i option others
  have h_query : ∃ read, option.text context looked
        = (.ok ((view looked.world).node first).text, read)
      ∧ looked.Moves view keep Browser.Looked read :=
    Handle.perform_query h_falters h_moves.ready h_option rfl rfl
  obtain ⟨read, h_read, h_moves'⟩ := h_query
  have h_loaded : areLoaded (option :: others) context looked = (.ok true, read) := by
    rw [areLoaded, run_bind_ok h_read, h_moves.world.node_eq, h_text]
    rfl
  refine ⟨option :: others, read, ?_, h_moves.looked h_moves',
    h_moves'.namesAll h_moves'.world.sameFrame (.cons h_option h_rest)⟩
  rw [waitLoaded, run_bind_ok (run_waitKeeping_of_yes h_look h_loaded)]
  rfl

/-- The list is opened by one click on its container, and the options come in. -/
theorem findOptions_lists (h_tidy : ∀ w, keep w → (view w).Tidy) :
    ∃ listed run', select.findOptions locator context run = choices listed context run'
      ∧ run.Moves view keep (Clicked [container]) run' ∧ run'.NamesAll view listed options := by
  have h_apart : ∀ option ∈ options, option ∉ [container] := h_offers.apart
  have h_clicks : ∀ browser, Browser.Acted container .click (view run.world) browser →
      Clicked [container] (view run.world) browser :=
    fun _ h_acted => Clicked.of_acted (h_tidy _ h.kept) h_acted
  obtain ⟨clicked, h_click, h_moves⟩ := Handle.click_focus_moves h_falters h h_container
    (h_offers.canClick container List.mem_cons_self) fun browser h_acted => by
      obtain ⟨window, h_windows⟩ := h_offers.window
      exact ⟨window, (h_clicks browser h_acted).alters.windows.trans h_windows⟩
  have h_page : select.container.own.requirePage context clicked = (.ok (), clicked) :=
    Link.run_requirePage select.container.own h_moves.ready.present
  have h_clicked := h_clicks _ h_moves.world
  have h_offers' := h_offers.of_alters h_clicked.alters h_apart
  obtain ⟨opened, h_open, h_looked⟩ := isOpen_moves h_falters h_moves.ready h_offers'
  have h_wait : Action.waitAsSet "drop-down panel to open" isOpen context clicked
      = (.ok (), opened) := by
    rw [waitAsSet, run_bind_ok (run_read _)]
    exact run_wait_of_yes h_open
  have h_opened := Clicked.of_looked h_looked.world
  have h_container' := h_moves.names h_clicked.alters.frame h_container
  obtain ⟨listed, loaded, h_loaded, h_looked', h_names⟩ := waitLoaded_moves h_falters
    h_looked.ready (h_looked.names h_opened.alters.frame h_container')
    (h_offers'.of_alters h_opened.alters fun _ _ => List.not_mem_nil)
  refine ⟨listed, loaded, ?_, ?_, h_names⟩
  · rw [findOptions, run_bind_ok h_click, run_bind_ok h_page, run_bind_ok h_wait,
      run_bind_ok h_loaded]
    rfl
  · exact (h_moves.weaken (h_clicks _)).then_look (h_looked.looked h_looked')

/-- The list gives the options to choose from. -/
theorem findOptions_moves (h_tidy : ∀ w, keep w → (view w).Tidy) :
    ∃ found run', select.findOptions locator context run = (.ok found, run')
      ∧ run.Moves view keep (Clicked [container]) run'
      ∧ run'.NamesAll view found (offered (view run.world) options) := by
  obtain ⟨listed, loaded, h_lists, h_moves, h_names⟩ :=
    findOptions_lists h_falters h h_container h_offers h_tidy
  obtain ⟨found, run', h_choices, h_looked, h_found⟩ :=
    choices_moves h_falters h_moves.ready h_names
  rw [offered_of_alters h_moves.world.alters h_offers.apart] at h_found
  exact ⟨found, run', h_lists.trans h_choices, h_moves.then_look h_looked, h_found⟩

end opening

-- ============================================================================
-- Selecting by text
-- ============================================================================

/-- What selecting among some options does: the container is clicked once and the keys come into
    the input; an option is clicked once if it was not selected and is the first one or all are
    asked for; nothing else is clicked. -/
structure Selected (keys : String) (all : Bool) (container input : String) (options : List String)
    (stage browser : Browser) : Prop where
  container_clicks : (browser.node container).clicks = (stage.node container).clicks + 1
  input_value : (browser.node input).attributes.find? "value"
    = some (((stage.node input).attributes.find? "value").getD "" ++ keys)
  option_clicks : ∀ (i : Nat) (option : String), options[i]? = some option →
    (browser.node option).clicks = (stage.node option).clicks
      + if (stage.node option).isSelected = false ∧ (i = 0 ∨ all = true) then 1 else 0
  other_clicks : ∀ name ∉ container :: options,
    (browser.node name).clicks = (stage.node name).clicks

theorem mem_chosen_iff (browser : Browser) (all : Bool) {options : List String}
    (h_nodup : options.Nodup) {i : Nat} {option : String} (h_at : options[i]? = some option) :
    option ∈ chosen browser all options
      ↔ (browser.node option).isSelected = false ∧ (i = 0 ∨ all = true) := by
  have h_mem : option ∈ options := List.mem_of_getElem? h_at
  cases all with
  | true => simp [chosen, h_mem]
  | false =>
    cases options with
    | nil => cases h_mem
    | cons first rest =>
      have h_first : option = first ↔ i = 0 := by
        cases i with
        | zero => exact iff_of_true (Option.some.inj h_at).symm rfl
        | succ i =>
          have h_rest : option ∈ rest := List.mem_of_getElem? h_at
          refine iff_of_false (fun h_eq => ?_) (Nat.succ_ne_zero i)
          exact (List.nodup_cons.mp h_nodup).1 (h_eq ▸ h_rest)
      simp [chosen, h_first, and_comm]

theorem count_chosen (browser : Browser) (all : Bool) {options : List String}
    (h_nodup : options.Nodup) {i : Nat} {option : String} (h_at : options[i]? = some option) :
    (chosen browser all options).count option
      = if (browser.node option).isSelected = false ∧ (i = 0 ∨ all = true) then 1 else 0 := by
  have h_asked : (if all then options else options.take 1).Nodup := by
    cases all with
    | true => exact h_nodup
    | false => exact h_nodup.sublist (List.take_sublist 1 options)
  have h_chosen : (chosen browser all options).Nodup := h_asked.filter _
  simp only [h_chosen.count, mem_chosen_iff browser all h_nodup h_at]

theorem chosen_subset (browser : Browser) (all : Bool) (options : List String) :
    chosen browser all options ⊆ options := by
  intro option h_mem
  have h_asked := (List.mem_filter.mp h_mem).1
  cases all with
  | true => exact h_asked
  | false => exact List.mem_of_mem_take h_asked

/-- What the clicks on the chosen options amount to, once the keys are typed. -/
theorem selected_of_clicked {keys container input : String} {all : Bool} {options : List String}
    {stage typed browser : Browser} (h_nodup : (container :: options).Nodup)
    (h_apart : input ∉ container :: options)
    (h_typed : Browser.Acted input (.sendKeys keys) stage typed)
    (h_clicked : Clicked ([container] ++ chosen stage all options) typed browser) :
    Selected keys all container input options stage browser := by
  obtain ⟨h_outside, h_options⟩ := List.nodup_cons.mp h_nodup
  have h_count : ∀ name, (browser.node name).clicks = (stage.node name).clicks
      + ([container].count name + (chosen stage all options).count name) := by
    intro name
    rw [h_clicked.clicks, h_typed.clicks_eq, List.count_append]
    rfl
  have h_never : ∀ name ∉ options, (chosen stage all options).count name = 0 := fun name h_not =>
    List.count_eq_zero_of_not_mem fun h_mem => h_not (chosen_subset _ _ _ h_mem)
  refine ⟨?_, ?_, fun i option h_at => ?_, fun name h_not => ?_⟩
  · rw [h_count, h_never container h_outside, List.count_singleton_self]
  · have h_untouched : input ∉ [container] ++ chosen stage all options := fun h_mem =>
      h_apart (List.cons_subset_cons container (chosen_subset _ _ _) h_mem)
    rw [(h_clicked.alters.alike input h_untouched).attributes, h_typed.value_of_sendKeys]
  · have h_other : option ∉ [container] := by
      intro h_same
      rw [List.mem_singleton] at h_same
      exact h_outside (h_same ▸ List.mem_of_getElem? h_at)
    rw [h_count, List.count_eq_zero_of_not_mem h_other, Nat.zero_add,
      count_chosen _ _ h_options h_at]
  · have h_other : name ∉ [container] := fun h_mem =>
      h_not (List.mem_singleton.mp h_mem ▸ List.mem_cons_self)
    rw [h_count, List.count_eq_zero_of_not_mem h_other,
      h_never name fun h_mem => h_not (List.mem_cons_of_mem _ h_mem)]
    rfl

section selecting

variable (h_falters : context.driver.Falters view keep) (h_tidy : ∀ w, keep w → (view w).Tidy)
  (h : run.Ready keep) {select : Select} {text container input : String} {options : List String}
  (h_container : run.Names view select.container container)
  (h_input : (((view run.world).node container).namesIn (.tagName "input")).head? = some input)
  (h_apart : input ∉ container :: options)
  (h_offers : Offers (optionContaining text) container options (view run.world))

include h_falters h_tidy h h_container h_input h_apart h_offers

/-- Once the keys are typed and the list is open, the options to choose from are there. -/
theorem selectByText_opens (keys : String) : ∃ typed found opened,
    select.sendKeys keys context run = (.ok (), typed)
      ∧ select.findOptions (optionContaining text) context typed = (.ok found, opened)
      ∧ run.Moves view keep (Browser.Acted input (.sendKeys keys)) typed
      ∧ typed.Moves view keep (Clicked [container]) opened
      ∧ opened.NamesAll view found (offered (view run.world) options) := by
  obtain ⟨box, looked, h_box, h_moves, h_names⟩ :=
    Handle.find_moves h_falters h h_container h_input
  obtain ⟨typed, h_typed, h_moves'⟩ := Handle.sendKeys_moves h_falters h_moves.ready h_names keys
  have h_all := h_moves.look_act h_moves'
  have h_alters := Alters.of_typed h_all.world
  have h_options : ∀ option ∈ options, option ∉ [input] := by
    intro option h_mem h_same
    rw [List.mem_singleton] at h_same
    exact h_apart (List.mem_cons_of_mem _ (h_same ▸ h_mem))
  obtain ⟨found, opened, h_found, h_opened, h_offered⟩ := findOptions_moves h_falters h_all.ready
    (h_all.names h_alters.frame h_container) (h_offers.of_alters h_alters h_options) h_tidy
  rw [offered_of_alters h_alters h_options] at h_offered
  refine ⟨typed, found, opened, ?_, h_found, h_all, h_opened, h_offered⟩
  rw [Select.sendKeys, run_bind_ok h_box]
  exact h_typed

/-- Where there is nothing to choose from, the list complains and no option is clicked. -/
theorem selectByText_refuses (h_none : offered (view run.world) options = []) (all : Bool)
    (filter : Option String) :
    ∃ after, select.selectByText text all filter context run
        = (.error (.select ("Could not locate option with visible text " ++ text)), after)
      ∧ ∀ option ∈ options,
        ((view after.world).node option).clicks = ((view run.world).node option).clicks := by
  obtain ⟨typed, found, opened, h_typed, h_found, h_moves, h_opened, h_names⟩ := selectByText_opens
    h_falters h_tidy h h_container h_input h_apart h_offers (filter.getD text)
  rw [h_none] at h_names
  cases h_names
  refine ⟨opened, ?_, fun option h_mem => ?_⟩
  · rw [selectByText, run_bind_ok h_typed, run_bind_ok h_found]
    rfl
  · have h_other := List.count_eq_zero_of_not_mem (h_offers.apart option h_mem)
    rw [h_opened.world.clicks, h_moves.world.clicks_eq, h_other]
    rfl

/-- Otherwise the options that are asked for are clicked. -/
theorem selectByText_selects (h_all : offered (view run.world) options = options) (all : Bool)
    (filter : Option String) :
    ∃ after, select.selectByText text all filter context run = (.ok (), after)
      ∧ Selected (filter.getD text) (select.multiple && all) container input options
        (view run.world) (view after.world) := by
  obtain ⟨typed, found, opened, h_typed, h_found, h_moves, h_opened, h_names⟩ := selectByText_opens
    h_falters h_tidy h h_container h_input h_apart h_offers (filter.getD text)
  rw [h_all] at h_names
  have h_alters : Alters ([input] ++ [container]) (view run.world) (view opened.world) :=
    (Alters.of_typed h_moves.world).trans h_opened.world.alters
  have h_options : ∀ option ∈ options, option ∉ [input] ++ [container] := by
    intro option h_mem h_same
    rcases List.mem_append.mp h_same with h_same | h_same
    · exact h_apart (List.mem_cons_of_mem _ (List.mem_singleton.mp h_same ▸ h_mem))
    · exact h_offers.apart option h_mem h_same
  have h_offers' := h_offers.of_alters h_alters h_options
  obtain ⟨after, h_loop, h_chosen⟩ := chooseFrom_moves h_falters h_tidy h_opened.ready h_names
    (List.nodup_cons.mp h_offers.nodup).2
    (fun node h_mem => h_offers'.canClick node (List.mem_cons_of_mem _ h_mem)) h_offers'.window
    (select.multiple && all)
  rw [chosen_of_alters h_alters _ h_options] at h_chosen
  refine ⟨after, ?_, selected_of_clicked h_offers.nodup h_apart h_moves.world
    (h_opened.world.trans h_chosen.world)⟩
  -- there is a first option, so that the list does not complain
  obtain ⟨first, h_first, -⟩ := h_offers.loaded
  obtain ⟨rest, rfl⟩ := List.head?_eq_some_iff.mp h_first
  obtain - | ⟨-, -⟩ := h_names
  rw [selectByText, run_bind_ok h_typed, run_bind_ok h_found]
  exact h_loop

end selecting

theorem offered_eq_nil {browser : Browser} {only : String}
    (h_disabled : isDisabledNode browser only = true) : offered browser [only] = [] :=
  if_pos h_disabled

theorem offered_eq_self {browser : Browser} {options : List String}
    (h_real : ∀ only, options = [only] → isDisabledNode browser only = false) :
    offered browser options = options := by
  match options with
  | [] => rfl
  | [only] =>
    rw [offered, h_real only rfl]
    rfl
  | _ :: _ :: _ => rfl

/-- A drop-down list clicks exactly the options that are asked for. If the only match is a disabled
    option, the list says that there is none and clicks none; otherwise the container is clicked
    once, the keys come into the search box once, and an option is clicked once if it was not
    selected and is the first one or all of several are asked for. -/
theorem selectByText_clicks {page : Page} {run : Run Browser} {select : Select}
    {text container input : String} {options : List String} (h : run.Ready Tidy)
    (h_container : run.Names id select.container container)
    (h_input : ((run.world.node container).namesIn (.tagName "input")).head? = some input)
    (h_apart : input ∉ container :: options)
    (h_offers : Offers (optionContaining text) container options run.world) (all : Bool)
    (filter : Option String) :
    (∀ only, options = [only] → isDisabledNode run.world only = true →
      ∃ after, select.selectByText text all filter ⟨Browser.driver, page⟩ run
          = (.error (.select ("Could not locate option with visible text " ++ text)), after)
        ∧ (after.world.node only).clicks = (run.world.node only).clicks)
    ∧ ((∀ only, options = [only] → isDisabledNode run.world only = false) →
      ∃ after, select.selectByText text all filter ⟨Browser.driver, page⟩ run = (.ok (), after)
        ∧ Selected (filter.getD text) (select.multiple && all) container input options run.world
          after.world) := by
  have h_tidy : ∀ browser : Browser, browser.Tidy → (id browser).Tidy := fun _ h => h
  refine ⟨fun only h_only h_disabled => ?_, fun h_real => ?_⟩
  · subst h_only
    have h_refused : ∃ after, select.selectByText text all filter ⟨Browser.driver, page⟩ run
          = (.error (.select ("Could not locate option with visible text " ++ text)), after)
        ∧ ∀ option ∈ [only],
          (after.world.node option).clicks = (run.world.node option).clicks :=
      selectByText_refuses Browser.driver_falters_tidy h_tidy h h_container h_input h_apart
        h_offers (offered_eq_nil h_disabled) all filter
    obtain ⟨after, h_run, h_clicks⟩ := h_refused
    exact ⟨after, h_run, h_clicks only List.mem_cons_self⟩
  · exact selectByText_selects Browser.driver_falters_tidy h_tidy h h_container h_input h_apart
      h_offers (offered_eq_self h_real) all filter

end Select

/-- A page with a drop-down list that offers some options to whoever searches for a lamp. -/
def Browser.withLamps (options : Keyed String Browser.Node) : Browser where
  nodes := [
    ("list", { tag := "ng-select",
               children := [("input", ["search"]),
                            ((Select.optionContaining "Lamp").value, options.map (·.1))] }),
    ("search", { tag := "input" }),
    ("panel", { tag := "ng-dropdown-panel" })] ++ options
  document := [("//list", ["list"]), ("ng-dropdown-panel", ["panel"])]

namespace Select

/-- A drop-down list for several lamps. -/
def ofLamps : Select where
  container := ⟨⟨0, .xpath "//list", none, false, none⟩, []⟩
  multiple := true

/-- A run in which the container of the list was found. -/
def lampsRun (options : Keyed String Browser.Node) : Run Browser where
  world := Browser.withLamps options
  references := [(0, ⟨"list", 0⟩)]
  nextId := 1

/-- Three lamps, of which the second one is selected. -/
def lamps : Keyed String Browser.Node :=
  [("desk", { text := "Desk Lamp", onClick := [.setSelected "desk" true] }),
   ("floor", { text := "Floor Lamp", isSelected := true }),
   ("wall", { text := "Wall Lamp" })]

/-- What stands there if there are no lamps. -/
def noLamps : Keyed String Browser.Node :=
  [("none", { text := "No items", attributes := [("class", "ng-option ng-option-disabled")] })]

/-- The list clicks each lamp that is not selected, and does not click what stands there in place
    of lamps. -/
theorem selectByText_clicks_lamps :
    (∃ after, ofLamps.selectByText "Lamp" true none ⟨Browser.driver, .bare⟩ (lampsRun lamps)
        = (.ok (), after)
      ∧ ["list", "desk", "floor", "wall"].map (fun name => (after.world.node name).clicks)
        = [1, 1, 0, 1]
      ∧ (after.world.node "search").attributes.find? "value" = some "Lamp")
    ∧ ∃ after, ofLamps.selectByText "Lamp" true none ⟨Browser.driver, .bare⟩ (lampsRun noLamps)
        = (.error (.select "Could not locate option with visible text Lamp"), after)
      ∧ (after.world.node "none").clicks = 0 := by
  have h_names : ∀ options, (lampsRun options).Names id ofLamps.container "list" :=
    fun _ => ⟨⟨Nat.zero_lt_one, rfl⟩, rfl⟩
  have h_input : ∀ options, (((lampsRun options).world.node "list").namesIn
      (.tagName "input")).head? = some "search" := fun _ => rfl
  constructor
  · have h_offers : Offers (optionContaining "Lamp") "list" ["desk", "floor", "wall"]
        (lampsRun lamps).world :=
      ⟨⟨"window-1", rfl⟩, by decide, ⟨"panel", by decide +kernel, by decide⟩, by decide +kernel,
        by decide, ⟨"desk", rfl, by decide +kernel⟩⟩
    obtain ⟨after, h_run, h_selected⟩ := (selectByText_clicks
      ⟨Browser.Tidy.of_forall (by decide), rfl⟩ (h_names lamps) (h_input lamps) (by decide)
      h_offers true none).2 fun _ h_only => by cases h_only
    refine ⟨after, h_run, ?_, h_selected.input_value⟩
    have h_list := h_selected.container_clicks
    have h_desk := h_selected.option_clicks 0 "desk" rfl
    have h_floor := h_selected.option_clicks 1 "floor" rfl
    have h_wall := h_selected.option_clicks 2 "wall" rfl
    simp only [List.map_cons, List.map_nil, h_list, h_desk, h_floor, h_wall]
    decide
  · have h_offers : Offers (optionContaining "Lamp") "list" ["none"] (lampsRun noLamps).world :=
      ⟨⟨"window-1", rfl⟩, by decide, ⟨"panel", by decide +kernel, by decide⟩, by decide +kernel,
        by decide, ⟨"none", rfl, by decide +kernel⟩⟩
    obtain ⟨after, h_run, h_clicks⟩ := (selectByText_clicks
      ⟨Browser.Tidy.of_forall (by decide), rfl⟩ (h_names noLamps) (h_input noLamps) (by decide)
      h_offers true none).1 "none" rfl (by decide +kernel)
    exact ⟨after, h_run, h_clicks⟩

end Select

end PageObjects
