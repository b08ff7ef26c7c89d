/-
  PageObjects.Proofs.Memory.Members

  The bindings of group members. A page remembers the binding of a member under the name of
  the member alone, so that of all groups that give one name the first that was asked for
  it decides what all of them get, until the page forgets everything. `Asked` is every
  state of a test together with the members that were asked for since then.

    * `Asked.members`: what is remembered of members, by induction on a test.
    * `groupBinding_first`: the binding that a group gives, and when it is its own.
-/

import PageObjects.Proofs.Memory.Departure

namespace PageObjects

open PageObjects.Action

variable {W : Type} {driver : Driver W} {page : Page} {run : Run W} {name : String}
  {group : ElementGroup}

-- ============================================================================
-- The bindings of a group
-- ============================================================================

/-- An expression for an attribute and a value is made for one attribute. -/
theorem XPath.withAttribute_inj {tag attr other value : String}
    (h : withAttribute tag attr value = withAttribute tag other value) : attr = other := by
  have h_chars := congrArg String.toList h
  simp only [withAttribute, stepWithAttribute, String.toList_append, List.append_assoc] at h_chars
  have h_behind := List.append_cancel_left <| List.append_cancel_left <|
    List.append_cancel_left h_chars
  exact String.toList_injective (List.append_cancel_right h_behind)

namespace ElementGroup

/-- The binding of the member with a given name, as its group has it. -/
def binding (group : ElementGroup) (settings : Settings) (name : String) : Binding :=
  ⟨group.locator settings name, group.cardinality⟩

/-- The attribute that carries the names of a group. -/
def nameAttribute (group : ElementGroup) (settings : Settings) : String :=
  group.attributeName.getD settings.dataAttribute

/-- Groups have one binding for a name if they have one attribute and one cardinality. -/
theorem binding_eq_iff {other : ElementGroup} {settings : Settings} :
    other.binding settings name = group.binding settings name
      ↔ other.nameAttribute settings = group.nameAttribute settings
        ∧ other.cardinality = group.cardinality := by
  constructor
  · intro h
    obtain ⟨h_locator, h_cardinality⟩ := Binding.mk.inj h
    exact ⟨XPath.withAttribute_inj (Locator.mk.inj h_locator).2, h_cardinality⟩
  · rintro ⟨h_attribute, h_cardinality⟩
    rw [nameAttribute, nameAttribute] at h_attribute
    rw [binding, binding, locator, locator, h_attribute, h_cardinality]

end ElementGroup

-- ============================================================================
-- What was asked for
-- ============================================================================

/-- Members by their names, each with the group that was asked for it, in the order of asking. -/
abbrev Asking := Keyed String ElementGroup

/-- The member of a group slot with given indices, if there is the slot and the indices are as many
    as its group needs. -/
def Page.member? (page : Page) (slot : String) (indices : List String) :
    Option (String × ElementGroup) :=
  (page.groups.find? slot).bind fun group =>
    (group.name indices).toOption.map fun name => (name, group)

/-- The member that an operation asks for. -/
def Operation.member? (page : Page) (operation : Operation) : Option (String × ElementGroup) :=
  operation.asks?.bind fun asked => page.member? asked.1 asked.2

/-- What of a list is left when the page may have forgotten the members. -/
def Memory.since (memory : Memory) (asked : Asking) : Asking :=
  if memory.members = [] then [] else asked

/-- The states that a test comes to that starts with nothing remembered, by any operations in any
    order, while the browser changes in any way; and the members that were asked for since the page
    forgot everything last. -/
inductive Asked (driver : Driver W) (page : Page) : Asking → Run W → Prop
  | start {run : Run W} : run.memory = {} → Asked driver page [] run
  | change {asked : Asking} {run : Run W} (world : W) : Asked driver page asked run →
      Asked driver page asked { run with world }
  | dropPage {asked : Asking} {run : Run W} : Asked driver page asked run →
      Asked driver page asked { run with pageDropped := true }
  | operate {asked : Asking} {run : Run W} (operation : Operation) : Asked driver page asked run →
      Asked driver page
        ((operation.action ⟨driver, page⟩ run).2.memory.since
          (asked ++ (operation.member? page).toList))
        (operation.action ⟨driver, page⟩ run).2
  | toast {asked : Asking} {run : Run W} : Asked driver page asked run →
      Asked driver page ((Page.toast ⟨driver, page⟩ run).2.memory.since asked)
        (Page.toast ⟨driver, page⟩ run).2
  | confirmDialog {asked : Asking} {run : Run W} : Asked driver page asked run →
      Asked driver page ((Page.confirmDialog ⟨driver, page⟩ run).2.memory.since asked)
        (Page.confirmDialog ⟨driver, page⟩ run).2

-- ============================================================================
-- What is remembered
-- ============================================================================

namespace Memory

/-- The bindings that are remembered are those of the groups that were asked first. -/
def FirstOf (page : Page) (asked : Asking) (memory : Memory) : Prop :=
  ∀ name, memory.members.find? name
    = (Keyed.find? name asked).map fun group => group.binding page.settings name

variable {asked : Asking} {memory after : Memory}

theorem FirstOf.since (h : FirstOf page asked memory) :
    FirstOf page (memory.since asked) memory := by
  rw [Memory.since]
  split
  · rename_i h_nil
    intro name
    rw [h_nil]
    rfl
  · exact h

/-- Where members were only forgotten, or not even that. -/
theorem FirstOf.since_of_kept (h : FirstOf page asked memory)
    (h_kept : after.members = memory.members ∨ after.members = []) :
    FirstOf page (after.since asked) after := by
  rcases h_kept with h_same | h_nil
  · apply FirstOf.since
    intro name
    rw [h_same, h name]
  · intro name
    rw [Memory.since, if_pos h_nil, h_nil]
    rfl

/-- A member is bound by the group that is asked if no other one was asked before. -/
theorem FirstOf.put (h : FirstOf page asked memory)
    (h_new : memory.members.find? name = none) :
    FirstOf page (asked ++ [(name, group)])
      { memory with members := memory.members.put name (group.binding page.settings name) } := by
  intro other
  rw [Keyed.find?_append]
  by_cases h_name : name = other
  · subst h_name
    have h_none : Keyed.find? name asked = none :=
      Option.map_eq_none_iff.mp ((h name).symm.trans h_new)
    rw [Keyed.find?_put_self, h_none, Option.none_or, Keyed.find?, if_pos rfl, Option.map_some]
  · rw [Keyed.find?_put_of_ne h_name, h other, Keyed.find?, if_neg h_name, Keyed.find?,
      Option.or_none]

theorem FirstOf.again (h : FirstOf page asked memory) {binding : Binding}
    (h_known : memory.members.find? name = some binding) :
    FirstOf page (asked ++ [(name, group)]) memory := by
  intro other
  rw [Keyed.find?_append, h other]
  by_cases h_name : name = other
  · subst h_name
    obtain ⟨first, h_first, -⟩ := Option.map_eq_some_iff.mp ((h name).symm.trans h_known)
    rw [h_first, Option.some_or]
  · rw [Keyed.find?, if_neg h_name, Keyed.find?, Option.or_none]

end Memory

/-- What a test does but to ask for members changes no binding, unless all are forgotten. -/
theorem Memory.members_cacheless (context : Context W) (members : Keyed String Binding) :
    Cacheless context fun run => run.memory.members = members ∨ run.memory.members = [] where
  exchange _ _ _ _ h_run := h_run
  act _ _ _ h_run := h_run
  pause _ _ h_run := h_run
  newHandle _ h_run := ⟨fun _ => h_run, fun _ _ h_later => h_later⟩
  free _ := ⟨fun _ _ h_run => h_run, fun _ _ _ _ h_run => h_run⟩
  forget _ _ := .inr rfl
  depart _ _ _ _ h_run := h_run
  write _ _ h_run := h_run

/-- To resolve a binding changes no binding. -/
theorem Memory.firstOf_resolve {asked : Asking} (binding : Binding) (slot : String) :
    Keeps (W := W) ⟨driver, page⟩ (fun run => run.memory.FirstOf page asked)
      (binding.resolve slot) := by
  have h_steady : Steady (W := W) ⟨driver, page⟩ fun run => run.memory.FirstOf page asked :=
    { exchange := fun _ _ _ _ h_run => h_run
      pause := fun _ _ h_run => h_run
      newHandle := fun _ h_run => ⟨fun _ => h_run, fun _ _ h_later => h_later⟩ }
  exact h_steady.resolveBinding binding fun _ _ h_run => h_run

namespace Page

/-- The binding of a member is the one that is remembered under its name, else the one that its
    group has, which is remembered then. -/
theorem run_memberBinding {asked : Asking} (driver : Driver W) (group : ElementGroup)
    (name : String) (h : run.memory.FirstOf page asked) : ∃ run',
      memberBinding group name ⟨driver, page⟩ run
        = (.ok (((Keyed.find? name asked).getD group).binding page.settings name), run')
        ∧ run'.memory.FirstOf page (asked ++ [(name, group)]) := by
  rw [memberBinding, run_bind_ok (run_get run)]
  cases h_known : run.memory.members.find? name with
  | some binding =>
    obtain ⟨first, h_first, rfl⟩ := Option.map_eq_some_iff.mp ((h name).symm.trans h_known)
    refine ⟨run, ?_, h.again h_known⟩
    rw [h_first]
    rfl
  | none =>
    have h_none : Keyed.find? name asked = none :=
      Option.map_eq_none_iff.mp ((h name).symm.trans h_known)
    refine ⟨{ run with memory := _ }, ?_, h.put h_known⟩
    rw [h_none]
    rfl

/-- Who asks by slot and indices asks for the member that they name, or changes nothing. -/
theorem ask_firstOf {α : Type} {asked : Asking} (h : run.memory.FirstOf page asked) (slot : String)
    (indices : List String) {ask : ElementGroup → String → Action W α}
    (h_ask : ∀ group name,
      (ask group name ⟨driver, page⟩ run).2.memory.FirstOf page (asked ++ [(name, group)])) :
    ((do
      let group ← declared "group" Page.groups slot
      let name ← group.name indices
      ask group name : Action W α) ⟨driver, page⟩ run).2.memory.FirstOf page
        (asked ++ (page.member? slot indices).toList) := by
  rw [member?]
  cases h_group : page.groups.find? slot with
  | none =>
    rw [run_bind, run_declared_none h_group]
    exact (List.append_nil asked).symm ▸ h
  | some group =>
    rw [run_bind_ok (run_declared h_group run), Option.bind_some]
    cases group.name indices with
    | error e =>
      rw [run_bind, run_lift]
      exact (List.append_nil asked).symm ▸ h
    | ok name =>
      rw [run_bind_ok (run_lift _ _)]
      exact h_ask group name

end Page

/-- An operation that asks for a member has the page remember its binding, if no other one was
    remembered under its name. -/
theorem PageOperation.firstOf_of_asks {asked : Asking} {operation : PageOperation}
    {slot : String} {indices : List String} (h : run.memory.FirstOf page asked)
    (h_asks : operation.asks? = some (slot, indices)) :
    (operation.action ⟨driver, page⟩ run).2.memory.FirstOf page
      (asked ++ (page.member? slot indices).toList) := by
  cases operation with
  | groupBinding slot' indices' =>
    obtain ⟨rfl, rfl⟩ := Prod.mk.inj (Option.some.inj h_asks)
    rw [action, givesNothing, run_map_snd]
    refine Page.ask_firstOf h _ _ fun group name => ?_
    obtain ⟨bound, h_bound, h_first⟩ := Page.run_memberBinding driver group name h
    rw [h_bound]
    exact h_first
  | groupMember slot' indices' =>
    obtain ⟨rfl, rfl⟩ := Prod.mk.inj (Option.some.inj h_asks)
    rw [action, givesResolved, run_map_snd]
    refine Page.ask_firstOf h _ _ fun group name => ?_
    obtain ⟨bound, h_bound, h_first⟩ := Page.run_memberBinding driver group name h
    rw [run_bind_ok h_bound]
    exact Keeps.iff.mp (Memory.firstOf_resolve _ _) bound h_first
  | _ => cases h_asks

theorem Memory.FirstOf.of_asks {asked : Asking} {operation : Operation}
    {member : String × List String} (h : run.memory.FirstOf page asked)
    (h_asks : operation.asks? = some member) :
    (operation.action ⟨driver, page⟩ run).2.memory.FirstOf page
      (asked ++ (operation.member? page).toList) := by
  rw [Operation.member?, h_asks, Option.bind_some]
  cases operation with
  | onPage operation => exact PageOperation.firstOf_of_asks h h_asks
  | _ => cases h_asks

/-- What is remembered of members in a test. -/
theorem Asked.members {asked : Asking} (h : Asked driver page asked run) :
    run.memory.FirstOf page asked := by
  induction h with
  | start h_none =>
    intro name
    rw [h_none]
    rfl
  | change _ _ ih => exact ih
  | dropPage _ ih => exact ih
  | @operate asked run operation _ ih =>
    cases h_asks : operation.asks? with
    | some member => exact (ih.of_asks h_asks).since
    | none =>
      have h_kept := Keeps.iff.mp
        ((Memory.members_cacheless ⟨driver, page⟩ run.memory.members).operation h_asks) run
        (.inl rfl)
      rw [Operation.member?, h_asks, Option.bind_none, Option.toList_none, List.append_nil]
      exact ih.since_of_kept h_kept
  | @toast asked run _ ih =>
    exact ih.since_of_kept (Keeps.iff.mp
      (Memory.members_cacheless ⟨driver, page⟩ run.memory.members).toast run (.inl rfl))
  | @confirmDialog asked run _ ih =>
    exact ih.since_of_kept (Keeps.iff.mp
      (Memory.members_cacheless ⟨driver, page⟩ run.memory.members).confirmDialog run (.inl rfl))

/-- An entry of what was asked for is a group of the page, and a name that it gives. -/
def Page.Gives (page : Page) (entry : String × ElementGroup) : Prop :=
  ∃ slot indices, page.groups.find? slot = some entry.2 ∧ entry.2.name indices = .ok entry.1

theorem Page.gives_of_member? {slot : String} {indices : List String}
    {entry : String × ElementGroup} (h : page.member? slot indices = some entry) :
    page.Gives entry := by
  obtain ⟨group, h_group, h_name⟩ := Option.bind_eq_some_iff.mp h
  obtain ⟨name, h_ok, rfl⟩ := Option.map_eq_some_iff.mp h_name
  refine ⟨slot, indices, h_group, ?_⟩
  cases h_result : group.name indices with
  | ok found => rw [h_result] at h_ok; exact congrArg _ (Option.some.inj h_ok)
  | error e => rw [h_result] at h_ok; cases h_ok

theorem Memory.mem_of_mem_since {asked : Asking} {memory : Memory} {entry : String × ElementGroup}
    (h : entry ∈ memory.since asked) : entry ∈ asked := by
  rw [since] at h
  split at h
  · cases h
  · exact h

/-- Only groups of the page were asked, for names that they give. -/
theorem Asked.gives {asked : Asking} (h : Asked driver page asked run) :
    ∀ entry ∈ asked, page.Gives entry := by
  induction h with
  | start _ => exact fun _ h_mem => nomatch h_mem
  | change _ _ ih => exact ih
  | dropPage _ ih => exact ih
  | operate operation _ ih =>
    intro entry h_mem
    rcases List.mem_append.mp (Memory.mem_of_mem_since h_mem) with h_old | h_new
    · exact ih entry h_old
    · obtain ⟨asks, -, h_member⟩ := Option.bind_eq_some_iff.mp (Option.mem_toList.mp h_new)
      exact Page.gives_of_member? h_member
  | toast _ ih => exact fun entry h_mem => ih entry (Memory.mem_of_mem_since h_mem)
  | confirmDialog _ ih => exact fun entry h_mem => ih entry (Memory.mem_of_mem_since h_mem)

-- ============================================================================
-- What groups give
-- ============================================================================

/-- The query of a binding for one element is one call. -/
theorem Binding.query_one_transcript (locator : Locator) (slot : Option String) (run : Run W) :
    ((Binding.one locator).query slot ⟨driver, page⟩ run).2.transcript
      = ⟨.session (.find locator), (driver.answer (.session (.find locator)) run.world).1,
          run.memory⟩ :: run.transcript := by
  have h_made : (run.exchange driver (.session (.find locator))).2.transcript
      = ⟨.session (.find locator), (driver.answer (.session (.find locator)) run.world).1,
          run.memory⟩ :: run.transcript := rfl
  rw [query_one, run_bind, run_sessionCall, ← h_made]
  dsimp only
  rcases run.exchange driver (.session (.find locator)) with ⟨_ | _, _⟩ <;> rfl

/-- A relative lookup is one call with the locator of its own group. -/
theorem Page.groupRelative_transcript {indices : List String}
    (h_name : group.name indices = .ok name) (run : Run W) :
    (groupRelative group indices ⟨driver, page⟩ run).2.transcript
      = ⟨.session (.find (group.locator page.settings name)),
          (driver.answer (.session (.find (group.locator page.settings name))) run.world).1,
          run.memory⟩ :: run.transcript := by
  rw [groupRelative, h_name, run_bind_ok (run_lift _ _), run_bind_ok (run_read _), find, run_bind,
    ← Binding.query_one_transcript _ none]
  rcases (Binding.one _).query none ⟨driver, page⟩ run with ⟨e | resolved, found⟩
  · rfl
  · exact congrArg (·.2.transcript) (run_lift resolved.head found)

/-- A group gives for a member the binding of the group that was first asked for the name of the
    member since the page forgot everything, which is a group of the page that gives the same name;
    so it gives its own one exactly if that group has its attribute and its cardinality. A relative
    lookup is made by its own locator in any case. -/
theorem groupBinding_first {asked : Asking} (h : Asked driver page asked run) {slot : String}
    (h_group : page.groups.find? slot = some group) {indices : List String}
    (h_arity : indices.length = group.arity) : ∃ name first,
      group.name indices = .ok name
        ∧ first = (Keyed.find? name asked).getD group
        ∧ page.Gives (name, first)
        ∧ ((do Page.groupBinding (← Page.declared "group" Page.groups slot) indices :
            Action W Binding) ⟨driver, page⟩ run).1 = .ok (first.binding page.settings name)
        ∧ (first.binding page.settings name = group.binding page.settings name ↔
          first.nameAttribute page.settings = group.nameAttribute page.settings
            ∧ first.cardinality = group.cardinality)
        ∧ ((do Page.groupRelative (← Page.declared "group" Page.groups slot) indices :
            Action W Handle) ⟨driver, page⟩ run).2.transcript
          = ⟨.session (.find (group.locator page.settings name)),
              (driver.answer (.session (.find (group.locator page.settings name))) run.world).1,
              run.memory⟩ :: run.transcript := by
  obtain ⟨name, h_name⟩ : ∃ name, group.name indices = .ok name := ⟨_, if_pos h_arity⟩
  refine ⟨name, _, h_name, rfl, ?_, ?_, ElementGroup.binding_eq_iff, ?_⟩
  · cases h_first : Keyed.find? name asked with
    | none => exact ⟨slot, indices, h_group, h_name⟩
    | some first => exact h.gives _ (Keyed.mem_of_find? h_first)
  · obtain ⟨bound, h_bound, -⟩ := Page.run_memberBinding driver group name h.members
    rw [run_bind_ok (Page.run_declared h_group run), Page.groupBinding, h_name,
      run_bind_ok (run_lift _ _), h_bound]
  · rw [run_bind_ok (Page.run_declared h_group run)]
    exact Page.groupRelative_transcript h_name run

/-- A page with two groups of the same names, one by the attribute for elements and one, with all
    matches, by another. -/
def Page.withTwins : Page :=
  { Page.front with
    groups := [("rows", .ofParts ["row"] none .one none),
      ("labels", .ofParts ["row"] none .many (some "name"))] }

/-- The second group gives the binding of the first one, which was asked before. -/
theorem groupBinding_first_twins : ∃ asked run, Asked Browser.driver Page.withTwins asked run
    ∧ ((do Page.groupBinding (← Page.declared "group" Page.groups "labels") ["1"] :
        Action Browser Binding) ⟨Browser.driver, .withTwins⟩ run).1
      = .ok (.one (.byAttribute "data-e2e" "row_1"))
    ∧ ((do Page.groupRelative (← Page.declared "group" Page.groups "labels") ["1"] :
        Action Browser Handle) ⟨Browser.driver, .withTwins⟩ run).2.transcript.map Exchange.call
      = .session (.find (.byAttribute "name" "row_1")) :: run.transcript.map Exchange.call := by
  have h_rows := (Asked.start rfl : Asked Browser.driver .withTwins [] { world := {} }).operate
    (.onPage (.groupBinding "rows" ["1"]))
  have h_labels : Page.withTwins.groups.find? "labels"
      = some (.ofParts ["row"] none .many (some "name")) := by decide
  obtain ⟨name, first, h_name, h_first, -, h_binding, -, h_relative⟩ :=
    @groupBinding_first _ _ _ _ _ _ h_rows _ h_labels ["1"] (by decide)
  obtain rfl : name = "row_1" := (Except.ok.inj h_name).symm
  refine ⟨_, _, h_rows, ?_, ?_⟩
  · rw [h_binding, h_first]
    decide +kernel
  · rw [h_relative]
    rfl

end PageObjects
