/-
  PageObjects.Proofs.Memory.Names

  Which handles the names of a page give. Declared slots, members of groups, tables
  and nested tables all share one memory with texts as keys. A member is remembered
  under its name, which indices may spell like a slot or like a member of another
  group; whichever was looked up first is then given for both.

    * `Page.Declares` lists what is declared under a name.
    * `named_in_session`: in every session of lookups a name gives handles of
      something that is declared under it, so the right ones if that is one thing
      only. Tables never stand in for elements, however their keys are spelled.
    * `named_in_session_member`: two declarations under one name, where a slot gives
      the member of a group.
-/

import PageObjects.Proofs.Memory.Session

namespace PageObjects

open PageObjects.Action

/-- What a page declares under a name: the binding of a slot, or of a member of a group. -/
inductive Page.Declares (page : Page) (name : String) : Binding → Prop
  | element {binding : Binding} : page.elements.find? name = some binding →
      Declares page name binding
  | member {slot : String} {group : ElementGroup} {indices : List String} :
      page.groups.find? slot = some group → group.name indices = .ok name →
      Declares page name ⟨group.locator page.settings name, group.cardinality⟩

/-- Whether an operation looks up by the declarations of the page only. A test may also bring a
    binding of its own and have it remembered under any name, or reload handles that it has put
    together. -/
def Operation.IsDeclared : Operation → Prop
  | onPage (.resolveBinding _ _) => False
  | onPage (.reload _) => False
  | _ => True

variable {W : Type} {driver : Driver W} {page : Page} {held : Held} {run : Run W}

/-- Lookups by declaration remember under a name only what is declared under it. -/
theorem Operation.IsDeclared.respectsNames {operation : Operation} (h : operation.IsDeclared) :
    operation.RespectsNames page.Declares page := by
  cases operation with
  | onPage operation =>
    cases operation with
    | resolve slot => exact fun _ h_slot => .element h_slot
    | element slot => exact fun _ h_slot => .element h_slot
    | elementList slot => exact fun _ h_slot => .element h_slot
    | groupBinding slot indices => exact fun _ h_group _ h_name => .member h_group h_name
    | groupMember slot indices => exact fun _ h_group _ h_name => .member h_group h_name
    | resolveBinding binding slot => exact h.elim
    | reload resolved => exact h.elim
    | _ => trivial
  | _ => trivial

/-- Resolved handles, all with the locator and the cardinality of one binding. -/
def Resolved.AnswersTo (binding : Binding) (resolved : Resolved) : Prop :=
  resolved.bindings ≠ [] ∧ ∀ other ∈ resolved.bindings, other = binding

/-- Sound handles answer to one of the bindings that fit their name. -/
theorem Resolved.SoundAt.answersTo {fits : Fits} {key : String} {resolved : Resolved}
    (h : resolved.SoundAt fits key) : ∃ binding, fits key binding ∧ resolved.AnswersTo binding := by
  obtain ⟨h_stored, h_fitting⟩ := h
  have h_one : ∀ binding, resolved.AnswersTo binding → fits key binding := by
    rintro binding ⟨h_ne, h_all⟩
    obtain ⟨other, h_other⟩ := List.exists_mem_of_ne_nil _ h_ne
    exact h_all other h_other ▸ h_fitting other h_other
  suffices h_answers : ∃ binding, resolved.AnswersTo binding by
    obtain ⟨binding, h_binding⟩ := h_answers
    exact ⟨binding, h_one binding h_binding, h_binding⟩
  cases resolved with
  | one handle =>
    exact ⟨.one handle.own.locator, List.cons_ne_nil _ _,
      fun other h_mem => List.mem_singleton.1 h_mem⟩
  | many handles =>
    obtain ⟨locator, h_all⟩ := h_stored.of_mem_many
    refine ⟨.many locator, fun h_nil => h_stored.toList_ne_nil (List.map_eq_nil_iff.1 h_nil),
      fun other h_mem => ?_⟩
    obtain ⟨handle, h_handle, rfl⟩ := List.mem_map.1 h_mem
    rw [(h_all handle h_handle).1]

/-- The one binding that a page declares under a name. -/
def Page.DeclaresOnly (page : Page) (name : String) (binding : Binding) : Prop :=
  ∀ other, page.Declares name other ↔ other = binding

theorem Page.DeclaresOnly.answersTo {name : String} {binding : Binding} {resolved : Resolved}
    (h : page.DeclaresOnly name binding)
    (h_answers : ∃ other, page.Declares name other ∧ resolved.AnswersTo other) :
    resolved.AnswersTo binding := by
  obtain ⟨other, h_other, h_resolved⟩ := h_answers
  exact (h other).1 h_other ▸ h_resolved

/-- In every session of lookups, a slot gives handles that answer to a binding declared under its
    name, and so does a member of a group. It is the binding of the slot or of the member wherever
    the name is declared once. -/
theorem named_in_session (h : Reached driver page Operation.IsDeclared held run) :
    (∀ slot resolved, (Page.resolve slot ⟨driver, page⟩ run).1 = .ok resolved →
      (∃ binding, page.Declares slot binding ∧ resolved.AnswersTo binding) ∧
      ∀ binding, page.DeclaresOnly slot binding → resolved.AnswersTo binding) ∧
    ∀ slot group indices resolved, page.groups.find? slot = some group →
      (Page.groupMember group indices ⟨driver, page⟩ run).1 = .ok resolved →
      ∃ name, group.name indices = .ok name ∧
        (∃ binding, page.Declares name binding ∧ resolved.AnswersTo binding) ∧
        ∀ binding, page.DeclaresOnly name binding → resolved.AnswersTo binding := by
  obtain ⟨h_sound, -⟩ := h.sound fun _ => Operation.IsDeclared.respectsNames
  refine ⟨fun slot resolved h_ok => ?_, fun slot group indices resolved h_group h_ok => ?_⟩
  · have h_answers := ((Page.resolve_yields fun _ h_slot => Page.Declares.element h_slot).of_ok
      h_sound h_ok).answersTo
    exact ⟨h_answers, fun _ h_only => h_only.answersTo h_answers⟩
  · obtain ⟨name, h_name, h_resolved⟩ := (Page.groupMember_yields fun _ h_name =>
      Page.Declares.member h_group h_name).of_ok h_sound h_ok
    exact ⟨name, h_name, h_resolved.answersTo,
      fun _ h_only => h_only.answersTo h_resolved.answersTo⟩

/-- A page with a slot for the title that is spelled like a member of a group. -/
def Page.withMembers : Page :=
  { Page.bare with
    elements := [("row_1", .one (.css ".title"))]
    groups := [("rows", .ofParts ["row"] none .one none)] }

/-- A title, and an element with the name of the member. -/
def Browser.titleAndMember : Browser where
  nodes := [("title", {}), ("member", {})]
  document := [(".title", ["title"]), ("//*[@data-e2e=\"row_1\"]", ["member"])]

/-- The member of the group was looked up first, and the slot gives it for the title. -/
theorem named_in_session_member : ∃ held run resolved,
    Reached Browser.driver Page.withMembers Operation.IsDeclared held run ∧
      (Page.resolve "row_1" ⟨Browser.driver, Page.withMembers⟩ run).1 = .ok resolved ∧
      resolved.bindings = [.one (.byAttribute "data-e2e" "row_1")] ∧
      Page.withMembers.elements.find? "row_1" = some (.one (.css ".title")) ∧
      ∃ binding, Page.withMembers.Declares "row_1" binding ∧ resolved.AnswersTo binding := by
  have h_start : Reached Browser.driver Page.withMembers Operation.IsDeclared {}
      { world := Browser.titleAndMember } := .start rfl
  have h_member := (h_start.operate (.onPage (.visit none [])) trivial trivial).operate
    (.onPage (.groupMember "rows" ["1"])) trivial trivial
  let resolved : Resolved :=
    .one ⟨⟨0, .byAttribute "data-e2e" "row_1", some "row_1", true, none⟩, []⟩
  obtain ⟨held, run, h_found, h_some⟩ : ∃ held run,
      Reached Browser.driver Page.withMembers Operation.IsDeclared held run ∧
        (Page.resolve "row_1" ⟨Browser.driver, Page.withMembers⟩ run).1.toOption = some resolved :=
    ⟨_, _, h_member, by decide +kernel⟩
  have h_ok : (Page.resolve "row_1" ⟨Browser.driver, Page.withMembers⟩ run).1 = .ok resolved := by
    cases h_result : (Page.resolve "row_1" ⟨Browser.driver, Page.withMembers⟩ run).1 with
    | ok found =>
      rw [h_result] at h_some
      exact congrArg Except.ok (Option.some.inj h_some)
    | error e =>
      rw [h_result] at h_some
      exact nomatch h_some
  exact ⟨held, run, resolved, h_found, h_ok, rfl, rfl,
    ((named_in_session h_found).1 "row_1" resolved h_ok).1⟩

end PageObjects
