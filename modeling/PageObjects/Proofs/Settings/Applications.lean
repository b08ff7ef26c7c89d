/-
  PageObjects.Proofs.Settings.Applications

  The applications of settings read from JSON. `AppConfig.Typed` says what may be given
  for an application, and `AppConfig.Overridden` what then is read: the defaults, with
  what is given in their place.

    * `AppConfig.ofJson?_eq_some_iff`: what is read of an application.
    * `Settings.lookup_of_appsOfMembers?`: of a repeated name the last application counts.
    * `Settings.exists_appsOfJson?_iff`: which values are applications.
-/

import PageObjects.Proofs.Json.Record
import PageObjects.Proofs.Json.Rereading
import PageObjects.Settings.Json

namespace PageObjects

open Json (Gives HasField HasType SpellsOptionalText SpellsTruth)

variable {json : Json} {given : List (String × Json)}

-- ============================================================================
-- The settings of an application
-- ============================================================================

namespace AppConfig

/-- The settings of an application with what is given in place of the defaults. -/
structure Overridden (given : List (String × Json)) (app : AppConfig) : Prop where
  baseUrl : HasField SpellsOptionalText given "base_url" none app.baseUrl
  pageLoaderClass :
    HasField SpellsOptionalText given "page_loader_css_class" none app.pageLoaderClass
  tableLoaderClass :
    HasField SpellsOptionalText given "table_loader_css_class" none app.tableLoaderClass
  modalVisibleClass :
    HasField SpellsOptionalText given "modal_visible_css_class" none app.modalVisibleClass
  hasPageReadyScript :
    HasField SpellsTruth given "has_page_ready_script" false app.hasPageReadyScript

/-- Each field that is given has its type. -/
structure Typed (given : List (String × Json)) : Prop where
  baseUrl : HasType SpellsOptionalText given "base_url"
  pageLoaderClass : HasType SpellsOptionalText given "page_loader_css_class"
  tableLoaderClass : HasType SpellsOptionalText given "table_loader_css_class"
  modalVisibleClass : HasType SpellsOptionalText given "modal_visible_css_class"
  hasPageReadyScript : HasType SpellsTruth given "has_page_ready_script"

theorem ofJson?_eq_some_iff {app : AppConfig} :
    ofJson? json = some app ↔ ∃ given, Gives fieldNames json given ∧ Overridden given app := by
  simp only [ofJson?, Option.bind_eq_bind, Option.bind_eq_some_iff, Json.fields?_eq_some_iff,
    Json.optionalTextField?_eq_some_iff, Json.boolField?_eq_some_iff, exists_exists_and_eq_and]
  simp (disch := decide) only [Json.hasField_pick_iff]
  refine exists_congr fun given => and_congr_right fun _ => ⟨?_, ?_⟩
  · rintro ⟨baseUrl, h_baseUrl, pageLoaderClass, h_pageLoader, tableLoaderClass, h_tableLoader,
      modalVisibleClass, h_modal, hasPageReadyScript, h_script, h_app⟩
    obtain rfl := Option.some.inj h_app
    exact ⟨h_baseUrl, h_pageLoader, h_tableLoader, h_modal, h_script⟩
  · intro h
    exact ⟨_, h.baseUrl, _, h.pageLoaderClass, _, h.tableLoaderClass, _, h.modalVisibleClass,
      _, h.hasPageReadyScript, rfl⟩

theorem Overridden.typed {app : AppConfig} (h : Overridden given app)
    (h_distinct : Fields.Distinct fieldNames given) : Typed given where
  baseUrl := h.baseUrl.hasType h_distinct (by decide)
  pageLoaderClass := h.pageLoaderClass.hasType h_distinct (by decide)
  tableLoaderClass := h.tableLoaderClass.hasType h_distinct (by decide)
  modalVisibleClass := h.modalVisibleClass.hasType h_distinct (by decide)
  hasPageReadyScript := h.hasPageReadyScript.hasType h_distinct (by decide)

theorem Typed.exists_overridden (h : Typed given) : ∃ app, Overridden given app := by
  obtain ⟨baseUrl, h_baseUrl⟩ := h.baseUrl.exists_hasField none
  obtain ⟨pageLoaderClass, h_pageLoader⟩ := h.pageLoaderClass.exists_hasField none
  obtain ⟨tableLoaderClass, h_tableLoader⟩ := h.tableLoaderClass.exists_hasField none
  obtain ⟨modalVisibleClass, h_modal⟩ := h.modalVisibleClass.exists_hasField none
  obtain ⟨hasPageReadyScript, h_script⟩ := h.hasPageReadyScript.exists_hasField false
  exact ⟨{ baseUrl, pageLoaderClass, tableLoaderClass, modalVisibleClass, hasPageReadyScript },
    h_baseUrl, h_pageLoader, h_tableLoader, h_modal, h_script⟩

/-- The value gives the fields of an application, each of its type. -/
def Sound (json : Json) : Prop :=
  ∃ given, Gives fieldNames json given ∧ Typed given

theorem nodup_fieldNames : fieldNames.Nodup := by decide

theorem exists_ofJson?_iff : (∃ app, ofJson? json = some app) ↔ Sound json := by
  constructor
  · rintro ⟨app, h_app⟩
    obtain ⟨given, h_given, h_over⟩ := ofJson?_eq_some_iff.mp h_app
    exact ⟨given, h_given, h_over.typed (h_given.distinct nodup_fieldNames)⟩
  · rintro ⟨given, h_given, h_typed⟩
    obtain ⟨app, h_over⟩ := h_typed.exists_overridden
    exact ⟨app, ofJson?_eq_some_iff.mpr ⟨given, h_given, h_over⟩⟩

theorem ofJson?_toJson (app : AppConfig) : ofJson? app.toJson = some app :=
  ofJson?_eq_some_iff.mpr ⟨_, .object (.of_nodup nodup_fieldNames),
    { baseUrl := rfl
      pageLoaderClass := rfl
      tableLoaderClass := rfl
      modalVisibleClass := rfl
      hasPageReadyScript := rfl }⟩

theorem isWritable_toJson (app : AppConfig) : app.toJson.IsWritable := by
  have h_text : ∀ text : Option String, (Json.ofOption Json.ofString text).IsWritable
    | none => .null
    | some text => .string text
  refine .object fun member h_mem => ?_
  simp only [List.mem_cons, List.not_mem_nil, or_false] at h_mem
  rcases h_mem with rfl | rfl | rfl | rfl | rfl
  · exact h_text _
  · exact h_text _
  · exact h_text _
  · exact h_text _
  · exact .bool _

end AppConfig

-- ============================================================================
-- Applications under their names
-- ============================================================================

namespace Settings

section
variable {before apps : List (String × AppConfig)} {entries : List (String × Json)} {name : String}
  {app : AppConfig}

theorem lookup_insertApp (name : String) (app : AppConfig) (apps : List (String × AppConfig))
    (other : String) :
    (insertApp name app apps).lookup other
      = if other = name then some app else apps.lookup other := by
  induction apps with
  | nil =>
    rw [insertApp, List.lookup_cons]
    split <;> simp_all
  | cons entry rest ih =>
    obtain ⟨first, old⟩ := entry
    by_cases h_first : first = name
    · rw [insertApp, if_pos h_first, List.lookup_cons, List.lookup_cons, h_first]
      split <;> simp_all
    · rw [insertApp, if_neg h_first, List.lookup_cons, List.lookup_cons, ih]
      split <;> simp_all

theorem mem_keys_insertApp {other : String} :
    other ∈ (insertApp name app apps).map Prod.fst ↔ other = name ∨ other ∈ apps.map Prod.fst := by
  rw [← isSome_lookup_iff, ← isSome_lookup_iff, lookup_insertApp]
  split <;> simp_all

theorem nodup_insertApp (h : (apps.map Prod.fst).Nodup) :
    ((insertApp name app apps).map Prod.fst).Nodup := by
  induction apps with
  | nil => exact List.nodup_cons.mpr ⟨List.not_mem_nil, List.nodup_nil⟩
  | cons entry rest ih =>
    obtain ⟨first, old⟩ := entry
    obtain ⟨h_not_mem, h_rest⟩ := List.nodup_cons.mp h
    by_cases h_first : first = name
    · subst h_first
      rw [insertApp, if_pos rfl]
      exact h
    · rw [insertApp, if_neg h_first]
      refine List.nodup_cons.mpr ⟨fun h_mem => ?_, ih h_rest⟩
      exact (mem_keys_insertApp.mp h_mem).elim h_first h_not_mem

/-- An application with a new name comes last. -/
theorem insertApp_of_not_mem (h : name ∉ apps.map Prod.fst) :
    insertApp name app apps = apps ++ [(name, app)] := by
  induction apps with
  | nil => rfl
  | cons entry rest ih =>
    have h_ne : entry.1 ≠ name := fun h_eq => h (List.mem_cons.mpr (.inl h_eq.symm))
    have h_rest : name ∉ rest.map Prod.fst := fun h_mem => h (List.mem_cons_of_mem _ h_mem)
    rw [insertApp, if_neg h_ne, ih h_rest, List.cons_append]

theorem appsOfMembers?_cons (name : String) (value : Json) :
    appsOfMembers? before (Json.named ((name, value) :: entries))
      = (AppConfig.ofJson? value).bind fun app =>
          appsOfMembers? (insertApp name app before) (Json.named entries) :=
  rfl

theorem exists_appsOfMembers?_iff :
    (∃ apps, appsOfMembers? before (Json.named entries) = some apps)
      ↔ ∀ entry ∈ entries, AppConfig.Sound entry.2 := by
  induction entries generalizing before with
  | nil => exact iff_of_true ⟨before, rfl⟩ nofun
  | cons entry rest ih =>
    obtain ⟨name, value⟩ := entry
    simp only [appsOfMembers?_cons, List.forall_mem_cons, Option.bind_eq_some_iff,
      ← @AppConfig.exists_ofJson?_iff value]
    constructor
    · rintro ⟨apps, app, h_app, h_rest⟩
      exact ⟨⟨app, h_app⟩, ih.mp ⟨apps, h_rest⟩⟩
    · rintro ⟨⟨app, h_app⟩, h_rest⟩
      obtain ⟨apps, h_apps⟩ := ih.mpr h_rest
      exact ⟨apps, app, h_app, h_apps⟩

theorem nodup_of_appsOfMembers? (h : appsOfMembers? before (Json.named entries) = some apps)
    (h_before : (before.map Prod.fst).Nodup) : (apps.map Prod.fst).Nodup := by
  induction entries generalizing before with
  | nil =>
    obtain rfl : before = apps := Option.some.inj h
    exact h_before
  | cons entry rest ih =>
    obtain ⟨app, -, h_rest⟩ := Option.bind_eq_some_iff.mp h
    exact ih h_rest (nodup_insertApp h_before)

/-- The application under a name is that of the last entry of the name, or the one before all
    entries. -/
theorem lookup_of_appsOfMembers? (h : appsOfMembers? before (Json.named entries) = some apps)
    (name : String) :
    match entries.reverse.lookup name with
    | none => apps.lookup name = before.lookup name
    | some value => ∃ app, apps.lookup name = some app ∧ AppConfig.ofJson? value = some app := by
  induction entries generalizing before with
  | nil =>
    obtain rfl : before = apps := Option.some.inj h
    rfl
  | cons entry rest ih =>
    obtain ⟨first, value⟩ := entry
    obtain ⟨app, h_app, h_rest⟩ := Option.bind_eq_some_iff.mp h
    have h_last := ih h_rest
    rw [List.reverse_cons, List.lookup_append]
    cases h_later : rest.reverse.lookup name with
    | some later =>
      rw [h_later] at h_last
      exact h_last
    | none =>
      rw [h_later, lookup_insertApp] at h_last
      by_cases h_name : name = first
      · rw [Option.none_or, h_name, List.lookup_cons_self]
        rw [if_pos h_name, h_name] at h_last
        exact ⟨app, h_last, h_app⟩
      · rw [Option.none_or, List.lookup_cons, beq_false_of_ne h_name]
        rw [if_neg h_name] at h_last
        exact h_last

theorem exists_named_of_appsOfMembers? {members : List (Option String × Json)}
    (h : appsOfMembers? before members = some apps) : ∃ entries, members = Json.named entries := by
  induction members generalizing before with
  | nil => exact ⟨[], rfl⟩
  | cons member rest ih =>
    obtain ⟨name | name, value⟩ := member
    · cases h
    · obtain ⟨app, -, h_rest⟩ := Option.bind_eq_some_iff.mp h
      obtain ⟨entries, rfl⟩ := ih h_rest
      exact ⟨(name, value) :: entries, rfl⟩

theorem appsOfJson?_eq_some_iff : appsOfJson? json = some apps
    ↔ ∃ entries, json = Json.ofMembers entries
        ∧ appsOfMembers? [] (Json.named entries) = some apps := by
  constructor
  · intro h
    cases json with
    | object members =>
      obtain ⟨entries, rfl⟩ := exists_named_of_appsOfMembers? h
      exact ⟨entries, rfl, h⟩
    | null => cases h
    | bool b => cases h
    | number literal => cases h
    | string text => cases h
    | array items => cases h
  · rintro ⟨entries, rfl, h⟩
    exact h

/-- Applications whose names are distinct are read back from their objects. -/
theorem appsOfMembers?_toJson (h : ((before ++ apps).map Prod.fst).Nodup) :
    appsOfMembers? before (Json.named (apps.map fun (name, app) => (name, app.toJson)))
      = some (before ++ apps) := by
  induction apps generalizing before with
  | nil => exact congrArg some (List.append_nil before).symm
  | cons entry rest ih =>
    obtain ⟨name, app⟩ := entry
    have h_new : name ∉ before.map Prod.fst := by
      rw [List.map_append, List.map_cons] at h
      exact fun h_mem => (List.nodup_append.mp h).2.2 name h_mem name List.mem_cons_self rfl
    rw [List.append_cons] at h ⊢
    rw [List.map_cons, appsOfMembers?_cons, AppConfig.ofJson?_toJson, Option.bind_some,
      insertApp_of_not_mem h_new, ih h]

end

/-- The applications of an object: under each name that of its last entry. -/
def SpellsApps (json : Json) (apps : List (String × AppConfig)) : Prop :=
  ∃ entries, json = Json.ofMembers entries ∧ (apps.map Prod.fst).Nodup ∧
    ∀ name, match entries.reverse.lookup name with
      | none => apps.lookup name = none
      | some value => ∃ app given, apps.lookup name = some app
          ∧ Gives AppConfig.fieldNames value given ∧ AppConfig.Overridden given app

/-- The value is an object with an application in every entry. -/
def SoundApps (json : Json) : Prop :=
  ∃ entries, json = Json.ofMembers entries ∧ ∀ entry ∈ entries, AppConfig.Sound entry.2

theorem spellsApps_of_appsOfJson? {apps : List (String × AppConfig)}
    (h : appsOfJson? json = some apps) : SpellsApps json apps := by
  obtain ⟨entries, h_json, h_apps⟩ := appsOfJson?_eq_some_iff.mp h
  refine ⟨entries, h_json, nodup_of_appsOfMembers? h_apps List.nodup_nil, fun name => ?_⟩
  have h_last := lookup_of_appsOfMembers? h_apps name
  cases h_lookup : entries.reverse.lookup name with
  | none =>
    rw [h_lookup] at h_last
    exact h_last
  | some value =>
    rw [h_lookup] at h_last
    obtain ⟨app, h_app, h_value⟩ := h_last
    obtain ⟨given, h_given, h_over⟩ := AppConfig.ofJson?_eq_some_iff.mp h_value
    exact ⟨app, given, h_app, h_given, h_over⟩

theorem exists_appsOfJson?_iff : (∃ apps, appsOfJson? json = some apps) ↔ SoundApps json := by
  simp only [appsOfJson?_eq_some_iff]
  constructor
  · rintro ⟨apps, entries, h_json, h_apps⟩
    exact ⟨entries, h_json, exists_appsOfMembers?_iff.mp ⟨apps, h_apps⟩⟩
  · rintro ⟨entries, h_json, h_sound⟩
    obtain ⟨apps, h_apps⟩ := exists_appsOfMembers?_iff.mpr h_sound
    exact ⟨apps, entries, h_json, h_apps⟩

end Settings

end PageObjects
